import EventIntake.Proofs.Event.Parts
import Mathlib.Logic.Relation

/-!
# The frames that matter

Of the frames of an event only some give names of files to the search text: the innermost three that
have a name, in each of the first two exceptions with such a frame. Whatever else is added leaves the
text as it is: frames without a name, exceptions without such a frame, frames farther out and
exceptions farther back (`searchText_padded`).

One step adds something at one place (`basenames_of_padded`); any number of steps adds things at any
places.
-/

namespace EventIntake

/-- The part of a file's name after the last slash. -/
def afterLastSlash (filename : List Char) : List Char :=
  (filename.reverse.takeWhile (· != '/')).reverse

/-- Whether a frame gives the name of a file. -/
def Frame.isUsable (frame : Frame) : Bool :=
  frame.filename.any fun filename => !(afterLastSlash filename).isEmpty

/-- Whether an exception has a frame that gives the name of a file. -/
def RaisedException.isUsable (exception : RaisedException) : Bool :=
  (exception.frames.getD []).any Frame.isUsable

namespace Event

variable {xs ys : List RaisedException}

/-! ## One exception -/

/-- The names that some frames give, innermost first. -/
def frameNames (frames : List Frame) : List (List Char) :=
  (frames.reverse.filterMap fun frame => frame.filename.map basename).filter (!·.isEmpty)

/-- Of an exception the names of its last usable frames count, and no more than the limit. -/
theorem traceNames_eq (exception : RaisedException) :
    traceNames exception = (frameNames (exception.frames.getD [])).take maxFrames := rfl

/-- Frames are read from the last one, so the inner frames come first. -/
@[simp] theorem frameNames_append (outer inner : List Frame) :
    frameNames (outer ++ inner) = frameNames inner ++ frameNames outer := by
  rw [frameNames, List.reverse_append, List.filterMap_append, List.filter_append, frameNames,
    frameNames]

/-- A cut name is empty only if it was before. -/
theorem isEmpty_basename (filename : List Char) :
    (basename filename).isEmpty = (afterLastSlash filename).isEmpty := by
  rw [basename, ← afterLastSlash, Bool.eq_iff_iff, List.isEmpty_iff, List.isEmpty_iff,
    List.take_eq_nil_iff]
  exact or_iff_right (by decide)

theorem length_frameNames (frames : List Frame) :
    (frameNames frames).length = frames.countP Frame.isUsable := by
  rw [frameNames, ← List.countP_eq_length_filter, List.countP_filterMap, List.countP_reverse]
  refine congrArg (List.countP · frames) (funext fun frame => ?_)
  rw [Frame.isUsable]
  cases frame.filename with
  | none => rfl
  | some filename =>
    rw [Option.map_some, Option.map_some, Option.getD_some, isEmpty_basename, Option.any_some]

theorem frameNames_eq_nil {frames : List Frame} (h : ∀ f ∈ frames, f.isUsable = false) :
    frameNames frames = [] := by
  rw [← List.length_eq_zero_iff, length_frameNames, List.countP_eq_zero]
  simpa using h

/-- Frames that give no name do not matter, wherever they are. -/
theorem traceNames_unusable {added : List Frame} (h : ∀ f ∈ added, f.isUsable = false)
    (outer inner : List Frame) :
    traceNames ⟨some (outer ++ added ++ inner)⟩ = traceNames ⟨some (outer ++ inner)⟩ := by
  simp [traceNames_eq, frameNames_eq_nil h]

/-- Frames outside the innermost three that give names do not matter. -/
theorem traceNames_outer {inner : List Frame} (h : 3 ≤ inner.countP Frame.isUsable)
    (outer added : List Frame) :
    traceNames ⟨some (outer ++ added ++ inner)⟩ = traceNames ⟨some (outer ++ inner)⟩ := by
  -- the names of the inner frames come first, and there are enough of them
  have henough : maxFrames ≤ (frameNames inner).length := by rwa [length_frameNames]
  simp [traceNames_eq, List.take_append_of_le_length henough]

/-- An exception gives names if one of its frames does. -/
theorem isEmpty_traceNames (exception : RaisedException) :
    (!(traceNames exception).isEmpty) = exception.isUsable := by
  have hnone : traceNames exception = [] ↔ exception.isUsable = false := by
    rw [traceNames_eq, List.take_eq_nil_iff, ← List.length_eq_zero_iff (l := frameNames _),
      length_frameNames, List.countP_eq_zero, RaisedException.isUsable, List.any_eq_false]
    exact or_iff_right (by decide)
  rw [Bool.eq_iff_iff, Bool.not_eq_true', List.isEmpty_eq_false_iff, Ne, hnone, Bool.not_eq_false]

/-! ## All exceptions -/

/-- The names that each exception gives, of those that give any. -/
def givenNames (exceptions : List RaisedException) : List (List (List Char)) :=
  (exceptions.map traceNames).filter (!·.isEmpty)

/-- The names of an event are those of its first exceptions that give any, up to both limits. -/
theorem basenames_eq (exceptions : List RaisedException) :
    basenames exceptions = ((givenNames exceptions).take maxTraces).flatten.take maxFilenames := rfl

/-- Exceptions are read from the first one, and each gives its names as a whole. -/
@[simp] theorem givenNames_append (xs ys : List RaisedException) :
    givenNames (xs ++ ys) = givenNames xs ++ givenNames ys := by
  rw [givenNames, List.map_append, List.filter_append, givenNames, givenNames]

theorem length_givenNames (exceptions : List RaisedException) :
    (givenNames exceptions).length = exceptions.countP RaisedException.isUsable := by
  rw [givenNames, ← List.countP_eq_length_filter, List.countP_map]
  exact congrArg (List.countP · exceptions) (funext isEmpty_traceNames)

theorem givenNames_eq_nil {exceptions : List RaisedException}
    (h : ∀ x ∈ exceptions, x.isUsable = false) : givenNames exceptions = [] := by
  rw [← List.length_eq_zero_iff, length_givenNames, List.countP_eq_zero]
  simpa using h

/-! ## What may be added -/

/-- The second exceptions are the first ones with something added at one place that does not matter. -/
inductive Padded : List RaisedException → List RaisedException → Prop where
  /-- frames that give no name, anywhere -/
  | unusableFrames (before after : List RaisedException) (outer inner added : List Frame)
      (h : ∀ f ∈ added, f.isUsable = false) :
      Padded (before ++ ⟨some (outer ++ inner)⟩ :: after)
        (before ++ ⟨some (outer ++ added ++ inner)⟩ :: after)
  /-- any frames outside the innermost three that give names -/
  | outerFrames (before after : List RaisedException) (outer inner added : List Frame)
      (h : 3 ≤ inner.countP Frame.isUsable) :
      Padded (before ++ ⟨some (outer ++ inner)⟩ :: after)
        (before ++ ⟨some (outer ++ added ++ inner)⟩ :: after)
  /-- exceptions without a frame that gives a name, anywhere -/
  | unusableExceptions (before after added : List RaisedException)
      (h : ∀ x ∈ added, x.isUsable = false) :
      Padded (before ++ after) (before ++ added ++ after)
  /-- any exceptions behind the first two that have such a frame -/
  | laterExceptions (before after added : List RaisedException)
      (h : 2 ≤ before.countP RaisedException.isUsable) :
      Padded (before ++ after) (before ++ added ++ after)

/-- Only the names that an exception gives matter. -/
theorem basenames_congr {x y : RaisedException} (h : traceNames x = traceNames y)
    (before after : List RaisedException) :
    basenames (before ++ x :: after) = basenames (before ++ y :: after) := by
  rw [basenames, List.map_append, List.map_cons, h, basenames, List.map_append, List.map_cons]

/-- One addition leaves the names of the event as they are. There is a case for each of the four
kinds. -/
theorem basenames_of_padded (h : Padded xs ys) : basenames ys = basenames xs := by
  cases h with
  | unusableFrames before after outer inner added h =>
    exact basenames_congr (traceNames_unusable h outer inner) before after
  | outerFrames before after outer inner added h =>
    exact basenames_congr (traceNames_outer h outer added) before after
  | unusableExceptions before after added h =>
    simp [basenames_eq, givenNames_eq_nil h]
  | laterExceptions before after added h =>
    have henough : maxTraces ≤ (givenNames before).length := by rwa [length_givenNames]
    simp [basenames_eq, List.take_append_of_le_length henough]

/-- **Frames.** Whatever is added to the exceptions of an event that does not matter, at as many places
as one likes, the search text stays as it is. -/
theorem searchText_padded (e : Event) (h : Relation.ReflTransGen Padded e.exceptions xs) :
    { e with exceptions := xs }.searchText = e.searchText := by
  have hnames : basenames xs = basenames e.exceptions := by
    induction h with
    | refl => rfl
    | tail _ hstep ih => exact (basenames_of_padded hstep).trans ih
  refine searchText_of_excerpts ?_
  simp only [excerpts, hnames]

/-- Frames in some files. -/
def framesIn (files : List String) : List Frame :=
  files.map fun file => ⟨some file.toList⟩

/-- Two exceptions, one with three frames. -/
def fewExceptions : List RaisedException :=
  [⟨some (framesIn ["a.js", "b.js", "c.js"])⟩, ⟨some (framesIn ["lib/d.js"])⟩]

/-- These exceptions, with one frame more in each and two exceptions more. -/
def manyExceptions : List RaisedException :=
  [⟨none⟩, ⟨some (framesIn ["main.js", "a.js", "b.js", "c.js"])⟩,
    ⟨some (framesIn ["lib/d.js", "lib/"])⟩, ⟨some (framesIn ["e.js"])⟩]

/-- Something of each kind is added, and the text stays as it is: an outer frame, a frame without a
file name, a later exception, and one without frames. -/
theorem searchText_padded_many :
    Relation.ReflTransGen Padded fewExceptions manyExceptions ∧
      { empty with exceptions := manyExceptions }.searchText =
        { empty with exceptions := fewExceptions }.searchText := by
  have houter : Padded fewExceptions
      [⟨some (framesIn ["main.js", "a.js", "b.js", "c.js"])⟩, ⟨some (framesIn ["lib/d.js"])⟩] :=
    .outerFrames [] [⟨some (framesIn ["lib/d.js"])⟩] [] (framesIn ["a.js", "b.js", "c.js"])
      (framesIn ["main.js"]) (by decide)
  have hframe : Padded
      [⟨some (framesIn ["main.js", "a.js", "b.js", "c.js"])⟩, ⟨some (framesIn ["lib/d.js"])⟩]
      [⟨some (framesIn ["main.js", "a.js", "b.js", "c.js"])⟩,
        ⟨some (framesIn ["lib/d.js", "lib/"])⟩] :=
    .unusableFrames [⟨some (framesIn ["main.js", "a.js", "b.js", "c.js"])⟩] []
      (framesIn ["lib/d.js"]) [] (framesIn ["lib/"]) (by decide)
  have hlater : Padded
      [⟨some (framesIn ["main.js", "a.js", "b.js", "c.js"])⟩,
        ⟨some (framesIn ["lib/d.js", "lib/"])⟩] manyExceptions.tail :=
    .laterExceptions
      [⟨some (framesIn ["main.js", "a.js", "b.js", "c.js"])⟩,
        ⟨some (framesIn ["lib/d.js", "lib/"])⟩] [] [⟨some (framesIn ["e.js"])⟩] (by decide)
  have hexception : Padded manyExceptions.tail manyExceptions :=
    .unusableExceptions [] _ [⟨none⟩] (by decide)
  have hall : Relation.ReflTransGen Padded fewExceptions manyExceptions :=
    .tail (.tail (.tail (.single houter) hframe) hlater) hexception
  exact ⟨hall, searchText_padded { empty with exceptions := fewExceptions } hall⟩

end Event

end EventIntake
