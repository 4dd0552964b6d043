import EventIntake.Analysis.StopWords
import EventIntake.Stemming.Arabic
import EventIntake.Stemming.Dutch
import EventIntake.Stemming.English
import EventIntake.Stemming.Finnish
import EventIntake.Stemming.French
import EventIntake.Stemming.German
import EventIntake.Stemming.Greek
import EventIntake.Stemming.Hungarian
import EventIntake.Stemming.Italian
import EventIntake.Stemming.Portuguese
import EventIntake.Stemming.Romanian
import EventIntake.Stemming.Russian
import EventIntake.Stemming.Scandinavian
import EventIntake.Stemming.Spanish
import EventIntake.Stemming.Tamil
import EventIntake.Stemming.Turkish

/-!
# Languages

The languages whose words can be stemmed. For some there is also a list of stop words.
-/

namespace EventIntake

/-- A language whose words can be stemmed. -/
inductive Language
  | arabic
  | danish
  | dutch
  | english
  | finnish
  | french
  | german
  | greek
  | hungarian
  | italian
  | norwegian
  | portuguese
  | romanian
  | russian
  | spanish
  | swedish
  | tamil
  | turkish
  deriving DecidableEq, Repr, Inhabited

namespace Language

/-- The languages by name. -/
def all : List Language :=
  [arabic, danish, dutch, english, finnish, french, german, greek, hungarian, italian, norwegian,
    portuguese, romanian, russian, spanish, swedish, tamil, turkish]

/-- The name of a language. -/
def name : Language → String
  | arabic => "arabic"
  | danish => "danish"
  | dutch => "dutch"
  | english => "english"
  | finnish => "finnish"
  | french => "french"
  | german => "german"
  | greek => "greek"
  | hungarian => "hungarian"
  | italian => "italian"
  | norwegian => "norwegian"
  | portuguese => "portuguese"
  | romanian => "romanian"
  | russian => "russian"
  | spanish => "spanish"
  | swedish => "swedish"
  | tamil => "tamil"
  | turkish => "turkish"

/-- The stop words of a language. -/
def stopWords : Language → List String
  | danish => Analysis.StopWords.danish
  | dutch => Analysis.StopWords.dutch
  | english => Analysis.StopWords.english
  | finnish => Analysis.StopWords.finnish
  | french => Analysis.StopWords.french
  | german => Analysis.StopWords.german
  | hungarian => Analysis.StopWords.hungarian
  | italian => Analysis.StopWords.italian
  | norwegian => Analysis.StopWords.norwegian
  | portuguese => Analysis.StopWords.portuguese
  | russian => Analysis.StopWords.russian
  | spanish => Analysis.StopWords.spanish
  | swedish => Analysis.StopWords.swedish
  | arabic | greek | romanian | tamil | turkish => []

/-- The stem of a word in lower case. -/
def stem : Language → String → String
  | arabic => Stemming.Arabic.stem
  | danish => Stemming.Danish.stem
  | dutch => Stemming.Dutch.stem
  | english => Stemming.English.stem
  | finnish => Stemming.Finnish.stem
  | french => Stemming.French.stem
  | german => Stemming.German.stem
  | greek => Stemming.Greek.stem
  | hungarian => Stemming.Hungarian.stem
  | italian => Stemming.Italian.stem
  | norwegian => Stemming.Norwegian.stem
  | portuguese => Stemming.Portuguese.stem
  | romanian => Stemming.Romanian.stem
  | russian => Stemming.Russian.stem
  | spanish => Stemming.Spanish.stem
  | swedish => Stemming.Swedish.stem
  | tamil => Stemming.Tamil.stem
  | turkish => Stemming.Turkish.stem

end Language

end EventIntake
