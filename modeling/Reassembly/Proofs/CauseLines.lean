import Mathlib.Data.List.Basic
import Reassembly.Diagnostics.Record

namespace Reassembly
namespace Diagnostics
namespace Cause

/-!
# The lines of a cause and the tree they come from

A cause has the lines of its own summary and frames, then those of the causes it
suppressed, then those of the cause beneath.  `lines_mk` says this in one
equation, and `Cause.ind` is the induction that goes with it.

Replacing the texts of a cause replaces what its lines show and nothing else
(`lines_mapTexts`), and how many lines there are follows from the shape of the
tree alone (`length_lines`).
-/

/-- What holds of a cause as soon as it holds of the causes in it, holds of
every cause. -/
@[elab_as_elim]
theorem ind {motive : Cause → Prop}
    (node : ∀ summary frames suppressed cause, (∀ inner ∈ suppressed, motive inner) →
      (∀ inner ∈ cause, motive inner) → motive (mk summary frames suppressed cause))
    (cause : Cause) : motive cause :=
  @Cause.rec motive (fun suppressed => ∀ inner ∈ suppressed, motive inner)
    (fun cause => ∀ inner ∈ cause, motive inner)
    (fun summary frames suppressed cause inSuppressed beneath =>
      node summary frames suppressed cause inSuppressed beneath)
    (fun _ member => absurd member List.not_mem_nil)
    (fun _ _ first rest inner member => by
      rcases List.mem_cons.mp member with rfl | further
      · exact first
      · exact rest inner further)
    (fun _ member => absurd member (Option.not_mem_none _))
    (fun _ holds inner member => by
      rw [← Option.mem_some_iff.mp member]
      exact holds)
    cause

theorem suppressedLines_eq (shown : String → List Char) (indent : List Char)
    (suppressed : List Cause) :
    suppressedLines shown indent suppressed = suppressed.flatMap fun inner =>
      (indent ++ "Suppressed: ".toList) :: lines shown (indentStep ++ indent) inner := by
  induction suppressed with
  | nil => rfl
  | cons inner rest ih => rw [suppressedLines, ih, List.flatMap_cons]

theorem causedByLines_eq (shown : String → List Char) (indent : List Char)
    (cause : Option Cause) :
    causedByLines shown indent cause = cause.toList.flatMap fun inner =>
      (indent ++ "Caused by: ".toList) :: lines shown indent inner := by
  cases cause with
  | none => rfl
  | some inner => rw [causedByLines, Option.toList_some, List.flatMap_singleton]

/-- The lines of a cause: its summary, its frames, what it suppressed and what
is beneath. -/
theorem lines_mk (shown : String → List Char) (indent : List Char) (summary : String)
    (frames : List String) (suppressed : List Cause) (cause : Option Cause) :
    lines shown indent (mk summary frames suppressed cause) =
      (indent ++ shown summary) ::
        (frames.map fun frame => indent ++ "\tat ".toList ++ shown frame) ++
        (suppressed.flatMap fun inner =>
          (indent ++ "Suppressed: ".toList) :: lines shown (indentStep ++ indent) inner) ++
        cause.toList.flatMap fun inner =>
          (indent ++ "Caused by: ".toList) :: lines shown indent inner := by
  rw [lines, suppressedLines_eq, causedByLines_eq]

/-! ## The texts of a cause -/

mutual

/-- The cause with all of its texts replaced. -/
def mapTexts (change : String → String) : Cause → Cause
  | mk summary frames suppressed cause =>
      mk (change summary) (frames.map change) (mapAll change suppressed)
        (mapOption change cause)

def mapAll (change : String → String) : List Cause → List Cause
  | [] => []
  | cause :: causes => mapTexts change cause :: mapAll change causes

def mapOption (change : String → String) : Option Cause → Option Cause
  | none => none
  | some cause => some (mapTexts change cause)

end

theorem mapAll_eq (change : String → String) (causes : List Cause) :
    mapAll change causes = causes.map (mapTexts change) := by
  induction causes with
  | nil => rfl
  | cons cause rest ih => rw [mapAll, ih, List.map_cons]

theorem mapOption_eq (change : String → String) (cause : Option Cause) :
    mapOption change cause = cause.map (mapTexts change) := by
  cases cause <;> rfl

/-- The lines of a cause with other texts are its lines with these texts
shown. -/
theorem lines_mapTexts (shown : String → List Char) (change : String → String)
    (indent : List Char) (cause : Cause) :
    lines shown indent (cause.mapTexts change) =
      lines (fun text => shown (change text)) indent cause := by
  induction cause using ind generalizing indent with
  | node summary frames suppressed cause inSuppressed beneath =>
      rw [mapTexts, mapAll_eq, mapOption_eq, lines_mk, lines_mk, List.map_map, List.flatMap_map]
      congr 1
      · congr 1
        apply List.flatMap_congr
        intro inner member
        rw [inSuppressed inner member]
      · cases cause with
        | none => rfl
        | some inner =>
            rw [Option.map_some, Option.toList_some, Option.toList_some, List.flatMap_singleton,
              List.flatMap_singleton, beneath inner rfl]

/-! ## Counting the lines -/

mutual

/-- How many lines a cause has: one for its summary and one for each frame, and
those of every cause in it with one more for the label. -/
def lineCount : Cause → Nat
  | mk _ frames suppressed cause =>
      1 + frames.length + lineCountAll suppressed + lineCountOption cause

def lineCountAll : List Cause → Nat
  | [] => 0
  | cause :: causes => (1 + lineCount cause) + lineCountAll causes

def lineCountOption : Option Cause → Nat
  | none => 0
  | some cause => 1 + lineCount cause

end

theorem length_suppressedLines {shown : String → List Char} {indent : List Char}
    {suppressed : List Cause}
    (counted : ∀ inner ∈ suppressed,
      (lines shown (indentStep ++ indent) inner).length = inner.lineCount) :
    (suppressedLines shown indent suppressed).length = lineCountAll suppressed := by
  induction suppressed with
  | nil => rfl
  | cons inner rest ih =>
      have others := ih fun other member => counted other (List.mem_cons_of_mem _ member)
      rw [suppressedLines, List.length_append, List.length_cons, others,
        counted inner List.mem_cons_self, lineCountAll, Nat.add_comm 1]

theorem length_causedByLines {shown : String → List Char} {indent : List Char}
    {cause : Option Cause}
    (counted : ∀ inner ∈ cause, (lines shown indent inner).length = inner.lineCount) :
    (causedByLines shown indent cause).length = lineCountOption cause := by
  cases cause with
  | none => rfl
  | some inner =>
      rw [causedByLines, List.length_cons, counted inner rfl, lineCountOption, Nat.add_comm]

theorem length_lines (shown : String → List Char) (indent : List Char) (cause : Cause) :
    (lines shown indent cause).length = cause.lineCount := by
  induction cause using ind generalizing indent with
  | node summary frames suppressed cause inSuppressed beneath =>
      have suppressedLength := length_suppressedLines
        fun inner member => inSuppressed inner member (indentStep ++ indent)
      have causeLength := length_causedByLines fun inner member => beneath inner member indent
      rw [lines, List.length_append, List.length_append, List.length_cons, List.length_map,
        suppressedLength, causeLength, lineCount]
      omega

end Cause
end Diagnostics
end Reassembly
