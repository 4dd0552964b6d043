import EventIntake.Stemming.Ending

/-!
# Spanish

Endings are taken off with their accents; the acute accents that are left are taken off in the end.
-/

namespace EventIntake.Stemming.Spanish

/-- The vowels. -/
def isVowel : Char → Bool :=
  among ['a', 'e', 'i', 'o', 'u', 'á', 'é', 'í', 'ó', 'ú', 'ü']

/-- The regions of a word. -/
def regions (cs : List Char) : Regions :=
  let (r1, r2) := syllableRegions isVowel cs
  ⟨romanceVerbRegion isVowel cs, r1, r2⟩

/-- The verb form that stands before a pronoun that is taken off, in the verb region. -/
def keep (form : String) : Rule := (put form).inRV

/-- What may stand before a pronoun that is written together with a verb. The verb form loses its
accent. -/
def beforePronoun : Endings := endings [
  ("iéndo", keep "iendo"), ("ándo", keep "ando"), ("ár", keep "ar"), ("ér", keep "er"),
  ("ír", keep "ir"), ("ando", keep "ando"), ("iendo", keep "iendo"), ("ar", keep "ar"),
  ("er", keep "er"), ("ir", keep "ir"), ("yendo", Rule.inRV ((put "yendo").after (· == 'u')))]

/-- The pronouns. -/
def pronoun : Endings := endings [
  ("me se sela selo selas selos la le lo las les los nos", beforePronoun.apply)]

/-- What may stand before the ending `amente`. -/
def beforeAmente : Endings := endings [
  ("iv", (drop.thenTry (ending "at" drop.inR2)).inR2),
  ("os ic ad", drop.inR2)]

/-- The endings of nouns, adjectives and adverbs. -/
def nominal : Endings := endings [
  ("anza anzas ico ica icos icas ismo ismos able ables ible ibles ista istas oso osa osos osas " ++
    "amiento amientos imiento imientos", drop.inR2),
  ("adora ador ación adoras adores aciones ante antes ancia ancias",
    (drop.thenTry (ending "ic" drop.inR2)).inR2),
  ("logía logías", (put "log").inR2),
  ("ución uciones", (put "u").inR2),
  ("encia encias", (put "ente").inR2),
  ("amente", (drop.thenTry beforeAmente.apply).inR1),
  ("mente", (drop.thenTry (endings [("ante able ible", drop.inR2)]).apply).inR2),
  ("idad idades", (drop.thenTry (endings [("abil ic iv", drop.inR2)]).apply).inR2),
  ("iva ivo ivas ivos", (drop.thenTry (ending "at" drop.inR2)).inR2)]

/-- The endings of verbs that begin with `y`. -/
def verbY : Endings := endings [
  ("ya ye yan yen yeron yendo yo yó yas yes yais yamos", drop.after (· == 'u'))]

/-- Takes off an ending, and before it the `u` after a `g`. -/
def dropU : Rule := fun _ w =>
  match w with
  | 'u' :: 'g' :: rest => some ('g' :: rest)
  | w => some w

/-- The endings of the other verbs. -/
def verb : Endings := endings [
  ("en es éis emos", dropU),
  ("arían arías arán arás aríais aría aréis aríamos aremos ará aré erían erías erán erás eríais " ++
    "ería eréis eríamos eremos erá eré irían irías irán irás iríais iría iréis iríamos iremos irá " ++
    "iré aba ada ida ía ara iera ad ed id ase iese aste iste an aban ían aran ieran asen iesen " ++
    "aron ieron ado ido ando iendo ió ar er ir as abas adas idas ías aras ieras ases ieses ís áis " ++
    "abais íais arais ierais aseis ieseis asteis isteis ados idos amos ábamos íamos imos áramos " ++
    "iéramos iésemos ásemos", drop)]

/-- The last letters. -/
def residual : Endings := endings [
  ("os a o á í ó", drop.inRV),
  ("e é", (drop.thenTry (ending "u" ((drop.afterText "g").inRV))).inRV)]

/-- A letter without its acute accent. -/
def plain : Char → Char
  | 'á' => 'a'
  | 'é' => 'e'
  | 'í' => 'i'
  | 'ó' => 'o'
  | 'ú' => 'u'
  | c => c

/-- The stem of a word. -/
def stem (word : String) : String :=
  let cs := word.toList
  let g := regions cs
  let w := pronoun.apply.run g cs.reverse
  let w := (nominal.apply g w <|> verbY.inRV g w <|> verb.inRV g w).getD w
  String.ofList ((residual.apply.run g w).reverse.map plain)

end EventIntake.Stemming.Spanish
