import EventIntake.Stemming.Ending

/-!
# Russian

Only what follows the first vowel can change, so that part is stemmed as a word of its own.
-/

namespace EventIntake.Stemming.Russian

/-- The vowels. -/
def isVowel : Char → Bool :=
  among ['а', 'е', 'и', 'о', 'у', 'ы', 'э', 'ю', 'я']

/-- Takes off an ending that stands after `а` or `я`. -/
def dropAfterA : Rule := drop.after fun c => c == 'а' || c == 'я'

/-- The endings of perfective gerunds. -/
def gerund : Endings := endings [
  ("в вши вшись", dropAfterA),
  ("ив ивши ившись ыв ывши ывшись", drop)]

/-- The endings of participles, which stand before those of adjectives. -/
def participle : Endings := endings [
  ("ем нн вш ющ щ", dropAfterA),
  ("ивш ывш ующ", drop)]

/-- The endings of adjectives. -/
def adjective : Endings := endings [
  ("ее ие ые ое ими ыми ей ий ый ой ем им ым ом его ого ему ому их ых ую юю ая яя ою ею",
    drop.thenTry participle.apply)]

/-- The endings of reflexive verbs. -/
def reflexive : Endings := endings [("ся сь", drop)]

/-- The endings of verbs. -/
def verb : Endings := endings [
  ("ла на ете йте ли й л ем н ло но ет ют ны ть ешь нно", dropAfterA),
  ("ила ыла ена ейте уйте ите или ыли ей уй ил ыл им ым ен ило ыло ено ят ует уют ит ыт ены ить " ++
    "ыть ишь ую ю", drop)]

/-- The endings of nouns. -/
def noun : Endings := endings [
  ("а ев ов ие ье е иями ями ами еи ии и ией ей ой ий й иям ям ием ем ам ом о у ах иях ях ы ь ию " ++
    "ью ю ия ья я", drop)]

/-- The endings of abstract nouns. -/
def abstractNoun : Endings := endings [("ост ость", drop.inR2)]

/-- Takes off an `н` that is written twice. -/
def singleN : Rule := ending "н" (drop.after (· == 'н'))

/-- The endings of superlatives and the last letters. -/
def lastLetters : Endings := endings [
  ("ейш ейше", drop.thenTry singleN),
  ("н", drop.after (· == 'н')),
  ("ь", drop)]

/-- The stem of a word. -/
def stem (word : String) : String :=
  let cs := word.toList
  let tail := (goPast isVowel cs).getD []
  let r2 := (goPast (!isVowel ·) tail).bind (goPastSyllable isVowel)
  let g : Regions := ⟨0, 0, before tail r2⟩
  let w := tail.reverse
  let w :=
    match gerund.apply g w with
    | some w => w
    | none =>
      let w := reflexive.apply.run g w
      (adjective.apply g w <|> verb.apply g w <|> noun.apply g w).getD w
  let w := (ending "и" drop).run g w
  let w := abstractNoun.apply.run g w
  let w := lastLetters.apply.run g w
  String.ofList (cs.take (cs.length - tail.length) ++ w.reverse)

end EventIntake.Stemming.Russian
