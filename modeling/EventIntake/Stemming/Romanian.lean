import EventIntake.Stemming.Ending

/-!
# Romanian

An `i` or `u` between vowels is a consonant, written as a capital while endings are taken off. The
letters with a cedilla are the ones that endings are spelled with.
-/

namespace EventIntake.Stemming.Romanian

/-- The vowels. -/
def isVowel : Char → Bool :=
  among ['a', 'e', 'i', 'o', 'u', 'â', 'î', 'ă']

/-- Writes `i` and `u` between vowels as capitals. -/
def markConsonants : List Char → List Char
  | a :: 'u' :: b :: rest =>
    if isVowel a && isVowel b then a :: 'U' :: markConsonants (b :: rest)
    else a :: markConsonants ('u' :: b :: rest)
  | a :: 'i' :: b :: rest =>
    if isVowel a && isVowel b then a :: 'I' :: markConsonants (b :: rest)
    else a :: markConsonants ('i' :: b :: rest)
  | a :: rest => a :: markConsonants rest
  | [] => []

/-- Writes the capitals as vowels again. -/
def unmark : Char → Char
  | 'I' => 'i'
  | 'U' => 'u'
  | c => c

/-- The regions of a word. -/
def regions (cs : List Char) : Regions :=
  let (r1, r2) := syllableRegions isVowel cs
  ⟨romanceVerbRegion isVowel cs, r1, r2⟩

/-- The article and the endings of plural and case. -/
def article : Endings := endings [
  ("ul ului", drop.inR1),
  ("aua", (put "a").inR1),
  ("ea ele elor", (put "e").inR1),
  ("ii iua iei iile iilor ilor", (put "i").inR1),
  ("ile", ((put "i").notAfter "ab").inR1),
  ("atei", (put "at").inR1),
  ("aţie aţia", (put "aţi").inR1)]

/-- Endings made of several, each with the one that stays. -/
def compound : Endings := endings [
  ("abilitate abilitati abilităi abilităţi", (put "abil").inR1),
  ("ibilitate", (put "ibil").inR1),
  ("ivitate ivitati ivităi ivităţi", (put "iv").inR1),
  ("icitate icitati icităi icităţi icator icatori iciv iciva icive icivi icivă ical icala icale " ++
    "icali icală", (put "ic").inR1),
  ("ativ ativa ative ativi ativă aţiune atoare ator atori ătoare ător ători", (put "at").inR1),
  ("itiv itiva itive itivi itivă iţiune itoare itor itori", (put "it").inR1)]

/-- Shortens compound endings as long as there are any. Each time the word gets shorter, so its length
is enough for the count. -/
def shorten (g : Regions) : Nat → Spelling → Option Spelling
  | 0, _ => none
  | n + 1, w => (compound.apply g w).map fun w => (shorten g n w).getD w

/-- Takes off an ending after a `ţ`, which becomes a `t`. -/
def hardenT : Rule := fun _ w =>
  match w with
  | 'ţ' :: rest => some ('t' :: rest)
  | _ => none

/-- The endings of nouns, adjectives and participles. -/
def nominal : Endings := endings [
  ("at ata ată ati ate ut uta ută uti ute it ita ită iti ite ic ica ice ici ică abil abila abile " ++
    "abili abilă ibil ibila ibile ibili ibilă oasa oasă oase os osi oşi ant anta ante anti antă " ++
    "ator atori itate itati ităi ităţi iv iva ive ivi ivă", drop.inR2),
  ("iune iuni", Rule.inR2 hardenT),
  ("ism isme ist ista iste isti istă işti", (put "ist").inR2)]

/-- The endings of verbs. Those of the first group stand after a consonant or an `u`. -/
def verb : Endings := endings [
  ("are ere ire âre ind ând indu ându eze ească ez ezi ează esc eşti eşte ăsc ăşti ăşte am ai au " ++
    "eam eai ea eaţi eau iam iai ia iaţi iau ui aşi arăm arăţi ară uşi urăm urăţi ură işi irăm " ++
    "irăţi iră âi âşi ârăm ârăţi âră asem aseşi ase aserăm aserăţi aseră isem iseşi ise iserăm " ++
    "iserăţi iseră âsem âseşi âse âserăm âserăţi âseră usem useşi use userăm userăţi useră",
    drop.afterInRV fun c => !isVowel c || c == 'u'),
  ("ăm aţi em eţi im iţi âm âţi seşi serăm serăţi seră sei se sesem seseşi sese seserăm seserăţi " ++
    "seseră", drop)]

/-- The last vowels. -/
def lastVowel : Endings := endings [("a e i ie ă", drop.inRV)]

/-- The stem of a word. -/
def stem (word : String) : String :=
  let cs := markConsonants word.toList
  let g := regions cs
  let w := article.apply.run g cs.reverse
  let shorter := shorten g w.length w
  let w := shorter.getD w
  let w :=
    match nominal.apply g w with
    | some w => w
    | none => if shorter.isSome then w else verb.inRV.run g w
  String.ofList ((lastVowel.apply.run g w).reverse.map unmark)

end EventIntake.Stemming.Romanian
