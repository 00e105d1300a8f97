import Reassembly.Proofs.CauseReading

namespace Reassembly
namespace Diagnostics

/-!
# Blocks at any indent

A block is the text that a cause adds to a record.  Its lines are found by
cutting it at its line feeds; with escaping on, all of these belong to the
layout.

The step of a suppressed cause is put in front of the indent around it, so the
steps of a line stand in the order from the inside out.  A block is moved in by a
step that is put in front of its lines, which is the order from the outside in.
Steps are all alike, so both give the same lines (`Row.indentAt_add`,
`Cause.lines_indentAt_add`), and the block of a suppressed cause is the block
that it would have by itself, moved in by one step.
-/

open Text

/-- Steps may be counted off from either end of an indent. -/
theorem Row.indentAt_add (outer inner : Nat) :
    indentAt (outer + inner) = indentAt outer ++ indentAt inner := by
  induction outer with
  | zero => rw [Nat.zero_add]; rfl
  | succ outer ih =>
      rw [Nat.succ_add, indentAt, indentAt, ih, List.append_assoc]

theorem Row.tabbed_indentAt (depth : Nat) : Tabbed (indentAt depth) := by
  induction depth with
  | zero => decide
  | succ depth ih =>
      apply Tabbed.append _ ih
      decide

namespace Cause

/-- The lines of a cause that stands further in are the same lines, moved in. -/
theorem lines_indentAt_add (shown : String → List Char) (outer inner : Nat) (cause : Cause) :
    lines shown (Row.indentAt (outer + inner)) cause =
      (lines shown (Row.indentAt inner) cause).map (Row.indentAt outer ++ ·) := by
  induction cause using ind generalizing inner with
  | node summary frames suppressed cause inSuppressed beneath =>
      -- a suppressed cause counts its own step to the inner ones
      have further : ∀ first ∈ suppressed,
          lines shown (indentStep ++ Row.indentAt (outer + inner)) first =
            (lines shown (indentStep ++ Row.indentAt inner) first).map
              (Row.indentAt outer ++ ·) :=
        fun first member => inSuppressed first member (inner + 1)
      simp only [lines_mk, List.map_append, List.map_cons, List.map_map, List.map_flatMap]
      congr 1
      · congr 1
        · simp only [Row.indentAt_add, List.append_assoc, Function.comp_def]
        · apply List.flatMap_congr
          intro first member
          rw [further first member, Row.indentAt_add, List.append_assoc]
      · apply List.flatMap_congr
        intro inside member
        rw [beneath inside (Option.mem_toList.mp member), Row.indentAt_add, List.append_assoc]

/-! ## Blocks -/

/-- What a cause that stands this many steps in adds to the text in front of it:
its lines, each behind a line feed. -/
def block (cause : Cause) (config : Config) (depth : Nat) : List Char :=
  (cause.lines (Record.shown config) (Row.indentAt depth)).flatMap fun line => '\n' :: line

/-- The lines that are found in a block.  It begins with the line feed that ends
the line in front of it. -/
def blockLines (cause : Cause) (config : Config) (depth : Nat) : List (List Char) :=
  ((cause.block config depth).splitOn '\n').tail

variable {config : Config}

/-- What is found in a block is what was put there. -/
theorem blockLines_eq (escapes : config.escapeMessages = true) (depth : Nat) (cause : Cause) :
    cause.blockLines config depth = cause.lines (Record.shown config) (Row.indentAt depth) := by
  have tabbed := tabbed_of_mem_lines (Record.controls_shown escapes) (Row.tabbed_indentAt depth)
    cause
  have found := splitOn_flatMap_lineFeed (List.not_mem_nil : '\n' ∉ [])
    fun line member => (tabbed line member).lineFeed_not_mem
  exact congrArg List.tail found

/-- The lines of a block that stands further in are those of the block at the
edge, moved in. -/
theorem blockLines_eq_map (escapes : config.escapeMessages = true) (depth : Nat)
    (cause : Cause) :
    cause.blockLines config depth =
      (cause.blockLines config 0).map (Row.indentAt depth ++ ·) := by
  rw [blockLines_eq escapes, blockLines_eq escapes]
  exact lines_indentAt_add (Record.shown config) depth 0 cause

theorem blockLines_mk (escapes : config.escapeMessages = true) (summary : String)
    (frames : List String) (suppressed : List Cause) (cause : Option Cause) :
    (mk summary frames suppressed cause).blockLines config 0 =
      escape summary.toList :: (frames.map fun frame => "\tat ".toList ++ escape frame.toList) ++
        (suppressed.flatMap fun inner =>
          "Suppressed: ".toList :: (inner.blockLines config 0).map (indentStep ++ ·)) ++
        cause.toList.flatMap fun inner => "Caused by: ".toList :: inner.blockLines config 0 := by
  have moved : ∀ inner, lines (Record.shown config) (indentStep ++ Row.indentAt 0) inner =
      (inner.blockLines config 0).map (indentStep ++ ·) :=
    fun inner => (blockLines_eq escapes 1 inner).symm.trans (blockLines_eq_map escapes 1 inner)
  rw [blockLines_eq escapes, lines_mk]
  simp only [moved, Record.shown_of_escapes escapes, ← blockLines_eq escapes 0]
  rfl

end Cause

namespace Appender

variable {ω : Type}

/-- With escaping on, the lines of a cause that stands so many steps in are its
lines at the edge behind so many steps.  These are its summary and frames, then
under its label each cause it suppressed, moved in by one step, and under its
label the cause beneath, which is not moved.  A record is written with them
wherever it shows its cause. -/
theorem block_at_depth (appender : Appender ω) (escapes : appender.config.escapeMessages = true)
    (cause : Cause) :
    (∀ depth, cause.blockLines appender.config depth =
      (cause.blockLines appender.config 0).map (Row.indentAt depth ++ ·)) ∧
    cause.blockLines appender.config 0 =
      escape cause.summary.toList ::
        (cause.frames.map fun frame => "\tat ".toList ++ escape frame.toList) ++
        (cause.suppressed.flatMap fun inner =>
          "Suppressed: ".toList ::
            (inner.blockLines appender.config 0).map (Cause.indentStep ++ ·)) ++
        (cause.cause.toList.flatMap fun inner =>
          "Caused by: ".toList :: inner.blockLines appender.config 0) ∧
    (appender.config.hideStacks = false → ∀ record : Record,
      (appender.format { record with cause := some cause }).toList =
        (appender.format { record with cause := none }).toList ++
          cause.block appender.config 0) := by
  refine ⟨fun depth => Cause.blockLines_eq_map escapes depth cause, ?_, ?_⟩
  · cases cause with
    | mk summary frames suppressed cause =>
        exact Cause.blockLines_mk escapes summary frames suppressed cause
  · intro displayed record
    rw [format, format, Record.toList_render, Record.toList_render,
      Record.text_eq_append_causeText, Record.causeText_of_displayed displayed]
    rfl

/-- Two steps in, the cause beneath a suppressed one stands where that one does,
three steps from the edge. -/
theorem nested_block_at_second_step :
    let appender : Appender Unit := .new default .reliable
    let cause : Cause :=
      .mk "outer" [] [.mk "lost\n" ["drop"] [] (some (.ofSummary "full"))]
        (some (.ofSummary "inner"))
    appender.config.escapeMessages = true ∧
      (cause.blockLines appender.config 2).map String.ofList =
        ["\t|\t|outer", "\t|\t|Suppressed: ", "\t|\t|\t|lost|", "\t|\t|\t|\tat drop",
          "\t|\t|\t|Caused by: ", "\t|\t|\t|full", "\t|\t|Caused by: ", "\t|\t|inner"] := by
  intro appender cause
  refine ⟨rfl, ?_⟩
  rw [(block_at_depth appender rfl cause).1]
  decide

end Appender
end Diagnostics
end Reassembly
