import EventIntake.Stemming.Ending

/-!
# Greek

Accents are taken off first, and the last form of the sigma is written as the common one. Words of
less than three letters stay. Many endings are put back, in part, after certain stems. Once an
ending is taken off, the common endings of inflection no longer count.
-/

namespace EventIntake.Stemming.Greek

/-- The vowels. -/
def isVowel : Char → Bool :=
  among ['α', 'ε', 'η', 'ι', 'ο', 'υ', 'ω']

/-- The vowels but for the upsilon. -/
def isVowelNotUpsilon (c : Char) : Bool :=
  isVowel c && c != 'υ'

/-- A letter without its accents, and the common form of the sigma. -/
def plain : Char → Char
  | 'ά' => 'α'
  | 'έ' => 'ε'
  | 'ή' => 'η'
  | 'ί' | 'ϊ' | 'ΐ' => 'ι'
  | 'ό' => 'ο'
  | 'ύ' | 'ϋ' | 'ΰ' => 'υ'
  | 'ώ' => 'ω'
  | 'ς' => 'σ'
  | c => c

/-- Takes off an ending and puts back what the rule says, if that applies. -/
def dropOr (back : Rule) : Rule :=
  drop.thenTry back

/-- A table of endings with one rule. -/
def step (texts : String) (rule : Rule) : Endings :=
  endings [(texts, rule)]

/-- Stems with irregular endings. -/
def irregular : Endings := endings [
  ("φαγια φαγιου φαγιων", put "φα"),
  ("σκαγια σκαγιου σκαγιων", put "σκα"),
  ("ολογιου ολογια ολογιων", put "ολο"),
  ("σογιου σογια σογιων", put "σο"),
  ("τατογια τατογιου τατογιων", put "τατο"),
  ("κρεασ κρεατοσ κρεατα κρεατων", put "κρε"),
  ("περασ περατοσ περατη περατα περατων", put "περ"),
  ("τερασ τερατοσ τερατα τερατων", put "τερ"),
  ("φωσ φωτοσ φωτα φωτων", put "φω"),
  ("καθεστωσ καθεστωτοσ καθεστωτα καθεστωτων", put "καθεστ"),
  ("γεγονοσ γεγονοτοσ γεγονοτα γεγονοτων", put "γεγον")]

/-- The stems after which `ισ` and `ιζ` lose their consonant. -/
def softStems : String :=
  "αναμπα εμπα εσε εσωκλε επα ξαναπα επε περιπα αθρο συναθρο δανε κλε χαρτοπα εξαρχα μετεπε " ++
    "αποκλε απεκλε εκλε πε"

/-- The endings of derived words that end the search for common endings. -/
def derived : List Endings := [
  irregular,
  step "ιζα ιζεσ ιζε ιζαμε ιζατε ιζαν ιζανε ιζω ιζεισ ιζει ιζουμε ιζετε ιζουν ιζουνε" <| dropOr <|
    ((put "ι").afterWhole "αναμπα εμπα επα ξαναπα πα περιπα αθρο συναθρο δανε").orElse
    ((put "ιζ").afterWhole <| "μαρκ κορν αμπαρ αρρ βαθυρι βαρκ β βολβορ γκρ γλυκορ γλυκυρ ιμπ λ " ++
      "λου μαρ μ πρ μπρ πολυρ π ρ πιπερορ"),
  step "ωθηκα ωθηκεσ ωθηκε ωθηκαμε ωθηκατε ωθηκαν ωθηκανε" <| dropOr <|
    (put "ων").afterWhole "αλ βι εν υψ λι ζω σ χ",
  endings [
    ("ισεσ ισε ισαμε ισατε ισαν ισανε ισα", fun g w =>
      if w.isEmpty then some w
      else (dropOr <|
        ((put "ι").afterWhole softStems).orElse
        ((put "ισ").afterWhole "αν αφ γε γιγαντοαφ γκε δημοκρατ κομ γκ μ π πουκαμ ολο λαρ")) g w)],
  step "ισω ισεισ ισει ισουμε ισετε ισουν ισουνε" <| dropOr <| (put "ι").afterWhole softStems,
  step "ιστοσ ιστου ιστο ιστε ιστοι ιστων ιστουσ ιστη ιστησ ιστα ιστεσ" <| dropOr <|
    ((put "ι").afterWhole "δανε συναθρο κλε σε εσωκλε ασε πλε").orElse
    ((put "ιστ").afterWhole <| "μ π απ αρ ηδ κτ σκ σχ υψ φα χρ χτ ακτ αορ ασχ ατα αχν αχτ γεμ γυρ " ++
      "εμπ ευπ εχθ ηφα καθ κακ κυλ λυγ μακ μεγ ταχ φιλ χωρ"),
  step "ισμο ισμοι ισμοσ ισμου ισμουσ ισμων" <| dropOr <|
    ((put "ισμ").afterWhole "σε μετασε μικροσε εγκλε αποκλε").orElse <|
    ((put "ι").afterWhole "δανε αντιδανε").orElse <|
    (ending "ικ" (drop.afterAny "αγνωστ ατομ γνωστ εθν εκλεκτ σκεπτ τοπ")).orElse
    (ending "ιν" (drop.afterAny "αλεξανδρ βυζαντ θεατρ")),
  step "αρακι αρακια ουδακι ουδακια" <| dropOr <| (put "αρακ").afterWhole "σ χ",
  step "ακι ακια ιτσα ιτσασ ιτσεσ ιτσων αρακι αρακια" <| dropOr <|
    ((put "ακ").afterWhole <| "βαμβ βρ καιμ κον κορ λαβρ λουλ μερ μουστ ναγκασ πλ ρ ρυ σ σκ σοκ " ++
      "σπαν τζ φαρμ χ καπακ αλισφ αμβρ ανθρ κ φυλ κατραπ κλιμ μαλ σλοβ φ σφ τσεχοσλοβ").orElse <|
    ((put "ιτσ").afterWhole <| "β βαλ γιαν γλ ζ ηγουμεν καρδ κον μακρυν νυφ πατερ π σκ τοσ " ++
      "τριπολ").orElse ((put "ιτσ").afterText "κορ"),
  step "ιδιο ιδια ιδιων" <| dropOr <|
    ((put "ιδ").afterWhole "αιφν ιρ ολο ψαλ").orElse ((put "ιδ").afterAny "ε παιχν"),
  step "ισκοσ ισκου ισκο ισκε" <| dropOr <| (put "ισκ").afterWhole "δ ιβ μην ρ φραγκ λυκ οβελ"]

/-- The endings of plurals, after which the common endings still count. -/
def plurals : List Endings := [
  step "αδεσ αδων" fun g w =>
    ((drop.afterAny "οκ μαμ μαν μπαμπ πατερ γιαγι νταντ κυρ θει πεθερ").orElse (put "αδ")) g w,
  step "εδεσ εδων" <| dropOr <| (put "εδ").afterAny "οπ ιπ εμπ υπ γηπ δαπ κρασπ μιλ",
  step "ουδεσ ουδων" <| dropOr <|
    (put "ουδ").afterAny "αρκ καλιακ πεταλ λιχ πλεξ σκ σ φλ φρ βελ λουλ χν σπ τραγ φε"]

/-- The endings of nouns and adjectives. -/
def nominal : List Endings := [
  step "εωσ εων" <| dropOr <| (put "ε").afterWhole "θ δ ελ γαλ ν π ιδ παρ",
  step "ια ιου ιων" <| dropOr <| (put "ι").after isVowel,
  step "ικα ικο ικου ικων" <| dropOr <|
    ((put "ικ").after isVowel).orElse
    ((put "ικ").afterWhole <| "αλ αδ ενδ αμαν αμμοχαλ ηθ ανηθ αντιδ φυσ βρωμ γερ εξωδ καλπ " ++
      "καλλιν καταδ μουλ μπαν μπαγιατ μπολ μποσ νιτ ξικ συνομηλ πετσ πιτσ πικαντ πλιατσ ποστελν " ++
      "πρωτοδ σερτ συναδ τσαμ υποδ φιλον φυλοδ χασ")]

/-- The endings of verbs. -/
def verbal : List Endings := [
  step "αγαμε ησαμε ουσαμε ηκαμε ηθηκαμε" drop,
  step "αμε" <| dropOr <|
    (put "αμ").afterWhole "αναπ αποθ αποκ αποστ βουβ ξεθ ουλ πεθ πικρ ποτ σιχ χ",
  step ("αγανε ησανε ουσανε ιοντανε ιοτανε ιουντανε οντανε οτανε ουντανε ηκανε ηθηκανε") <|
    dropOr <| (put "αγαν").afterWhole "τρ τσ",
  step "ανε" <| dropOr <|
    ((put "αν").after isVowelNotUpsilon).orElse
    ((put "αν").afterWhole <| "βετερ βουλκ βραχμ γ δραδουμ θ καλπουζ καστελ κορμορ λαοπλ μωαμεθ μ " ++
      "μουσουλμ ν ουλ π πελεκ πλ πολισ πορτολ σαρακατσ σουλτ τσαρλατ ορφ τσιγγ τσοπ φωτοστεφ χ " ++
      "ψυχοπλ αγ γαλ γερ δεκ διπλ αμερικαν ουρ πιθ πουριτ σ ζωντ ικ καστ κοπ λιχ λουθηρ μαιντ " ++
      "μελ σιγ σπ στεγ τραγ τσαγ φ ερ αδαπ αθιγγ αμηχ ανικ ανοργ απηγ απιθ ατσιγγ βασ βασκ " ++
      "βαθυγαλ βιομηχ βραχυκ διατ διαφ ενοργ θυσ καπνοβιομηχ καταγαλ κλιβ κοιλαρφ λιβ " ++
      "μεγλοβιομηχ μικροβιομηχ νταβ ξηροκλιβ ολιγοδαμ ολογαλ πενταρφ περηφ περιτρ πλατ πολυδαπ " ++
      "πολυμηχ στεφ ταβ τετ υπερηφ υποκοπ χαμηλοδαπ ψηλοταβ"),
  step "ησετε" drop,
  step "ετε" <| dropOr <|
    ((put "ετ").after isVowelNotUpsilon).orElse <|
    ((put "ετ").afterAny <| "οδ αιρ φορ ταθ διαθ σχ ενδ ευρ τιθ υπερθ ραθ ενθ ροθ σθ πυρ αιν συνδ " ++
      "συν συνθ χωρ πον βρ καθ ευθ εκθ νετ ρον αρκ βαρ βολ ωφελ").orElse
    ((put "ετ").afterWhole <| "αβαρ βεν εναρ αβρ αδ αθ αν απλ βαρον ντρ σκ κοπ μπορ νιφ παγ " ++
      "παρακαλ σερπ σκελ συρφ τοκ υ δ εμ θαρρ θ"),
  step "οντασ ωντασ" <| dropOr <|
    ((put "οντ").afterWhole "αρχ").orElse ((put "ωντ").afterText "κρε"),
  step "ομαστε ιομαστε" <| dropOr <| (put "ομαστ").afterWhole "ον",
  step "ιεστε" <| dropOr <| (put "ιεστ").afterWhole "π απ συμπ ασυμπ ακαταπ αμεταμφ",
  step "εστε" <| dropOr <| (put "εστ").afterWhole "αλ αρ εκτελ ζ μ ξ παρακαλ προ νισ",
  step "ηθηκα ηθηκεσ ηθηκε" drop,
  step "ηκα ηκεσ ηκε" <| dropOr <|
    ((put "ηκ").afterAny "σκωλ σκουλ ναρθ σφ οθ πιθ").orElse
    ((put "ηκ").afterWhole "διαθ θ παρακαταθ προσθ συνθ"),
  step "ουσα ουσεσ ουσε" <| dropOr <|
    ((put "ουσ").afterAny "ποδαρ βλεπ πανταχ φρυδ μαντιλ μαλλ κυματ λαχ ληγ φαγ ομ πρωτ").orElse
    ((put "ουσ").afterWhole <| "φαρμακ χαδ αγκ αναρρ βρομ εκλιπ λαμπιδ λεχ μ πατ ρ λ μεδ μεσαζ " ++
      "υποτειν αμ αιθ ανηκ δεσποζ ενδιαφερ δε δευτερευ καθαρευ πλε τσα"),
  step "ησε ησου ησα" <| dropOr <| (put "ησ").afterWhole "ν χερσον δωδεκαν ερημον μεγαλον επταν",
  step "αγα αγεσ αγε" <| dropOr <|
    ((put "αγ").afterText "κολλ").orElse <|
    ((put "αγ").afterAny "οφ πελ χορτ λλ σφ ρπ φρ πρ λοχ σμην").orElse
    ((put "αγ").afterWhole <| "αβαστ πολυφ αδηφ παμφ ρ ασπ αφ αμαλ αμαλλι ανυστ απερ ασπαρ αχαρ " ++
      "δερβεν δροσοπ ξεφ νεοπ νομοτ ολοπ ομοτ προστ προσωποπ συμπ συντ τ υποτ χαρ αειπ αιμοστ " ++
      "ανυπ αποτ αρτιπ διατ εν επιτ κροκαλοπ σιδηροπ λ ναυ ουλαμ ουρ π τρ μ")
      |>.notAfter "ψοφ" |>.notAfter "ναυλοχ",
  step "ηστε" <| dropOr <|
    (put "ηστ").afterWhole "ασβ σβ αχρ χρ απλ αειμν δυσχρ ευχρ κοινοχρ παλιμψ",
  step "ουνε ησουνε ηθουνε" <| dropOr <|
    (put "ουν").afterWhole "ν ρ σπι στραβομουτσ κακομουτσ εξων",
  step "ουμε ησουμε ηθουμε" <| dropOr <|
    (put "ουμ").afterWhole "παρασουσ φ χ ωριοπλ αζ αλλοσουσ ασουσ"]

/-- The ending of nouns in `μα`. -/
def neuter : Endings := step "ματα ματων ματοσ" (put "μα")

/-- The common endings of inflection. -/
def common : Endings := step
  ("α αγατε αγαν αει αμαι αν ασ ασαι αται αω ε ει εισ ειτε εσαι εσ εται ι ιεμαι ιεμαστε ιεται " ++
    "ιεσαι ιεσαστε ιομασταν ιομουν ιομουνα ιονταν ιοντουσαν ιοσασταν ιοσαστε ιοσουν ιοσουνα " ++
    "ιοταν ιουμα ιουμαστε ιουνται ιουνταν η ηδεσ ηδων ηθει ηθεισ ηθειτε ηθηκατε ηθηκαν ηθουν ηθω " ++
    "ηκατε ηκαν ησ ησαν ησατε ησει ησεσ ησουν ησω ο οι ομαι ομασταν ομουν ομουνα ονται ονταν " ++
    "οντουσαν οσ οσασταν οσαστε οσουν οσουνα οταν ου ουμαι ουμαστε ουν ουνται ουνταν ουσ ουσαν " ++
    "ουσατε υ υσ ω ων") drop

/-- The endings of comparatives and superlatives. -/
def comparison : Endings := step "εστερ εστατ οτερ οτατ υτερ υτατ ωτερ ωτατ" drop

/-- Applies the tables in turn, and tells whether one applied. -/
def applyAll (tables : List Endings) (w : Spelling) : Spelling × Bool :=
  tables.foldl (fun (w, applied) table =>
    match table.apply ⟨0, 0, 0⟩ w with
    | some w => (w, true)
    | none => (w, applied)) (w, false)

/-- The stem of a word. -/
def stem (word : String) : String :=
  let cs := word.toList.map plain
  if cs.length < 3 then String.ofList cs
  else
    let (w, derivedOnce) := applyAll derived cs.reverse
    let (w, _) := applyAll plurals w
    let (w, inflected) := applyAll nominal w
    let w := if w == spell "αγαμε" then spell "αγαμ" else w
    let (w, conjugated) := applyAll verbal w
    let (w, _) := applyAll [neuter] w
    let (w, _) := if derivedOnce || inflected || conjugated then (w, false) else applyAll [common] w
    let (w, _) := applyAll [comparison] w
    String.ofList w.reverse

end EventIntake.Stemming.Greek
