import Reassembly.Handler
import Reassembly.Log
import Reassembly.Metrics

namespace Reassembly

/-!
# What a stretch of work leaves behind

Handler calls, log records and counters are all that is seen of a sink from
outside.  A journal holds them in order.  Journals of two stretches of work
append, and an empty journal is neutral, so a run may be cut anywhere.
-/

/-- The visible effects of some steps, in order. -/
structure Journal where
  deliveries : Array Delivery
  records : Array LogRecord
  metrics : Metrics
deriving DecidableEq

namespace Journal

def empty : Journal :=
  ⟨#[], #[], .zero⟩

instance : Inhabited Journal := ⟨empty⟩

/-- The effects of two stretches of work, in order. -/
def append (earlier later : Journal) : Journal where
  deliveries := earlier.deliveries ++ later.deliveries
  records := earlier.records ++ later.records
  metrics := earlier.metrics + later.metrics

instance : Append Journal := ⟨append⟩

def delivery (delivery : Delivery) : Journal :=
  { empty with deliveries := #[delivery] }

def record (record : LogRecord) : Journal :=
  { empty with records := #[record] }

def counted (metrics : Metrics) : Journal :=
  { empty with metrics }

@[simp] theorem deliveries_append (earlier later : Journal) :
    (earlier ++ later).deliveries = earlier.deliveries ++ later.deliveries := rfl

@[simp] theorem records_append (earlier later : Journal) :
    (earlier ++ later).records = earlier.records ++ later.records := rfl

@[simp] theorem metrics_append (earlier later : Journal) :
    (earlier ++ later).metrics = earlier.metrics + later.metrics := rfl

@[simp] theorem empty_append (journal : Journal) : empty ++ journal = journal := by
  show append empty journal = journal
  simp [append, empty]

@[simp] theorem append_empty (journal : Journal) : journal ++ empty = journal := by
  show append journal empty = journal
  simp [append, empty]

theorem append_assoc (first second third : Journal) :
    first ++ second ++ third = first ++ (second ++ third) := by
  show append (append first second) third = append first (append second third)
  simp [append, Array.append_assoc, Metrics.add_assoc]

/-- The effects of several stretches of work, in order. -/
def joined (journals : List Journal) : Journal :=
  journals.foldr (· ++ ·) .empty

theorem joined_append (earlier later : List Journal) :
    joined (earlier ++ later) = joined earlier ++ joined later := by
  induction earlier with
  | nil => exact (empty_append (joined later)).symm
  | cons first rest ih =>
      show first ++ joined (rest ++ later) = first ++ joined rest ++ joined later
      rw [ih, append_assoc]

theorem joined_singleton (journal : Journal) : joined [journal] = journal :=
  append_empty journal

theorem foldl_append (start : Journal) (journals : List Journal) :
    journals.foldl (· ++ ·) start = start ++ joined journals := by
  induction journals generalizing start with
  | nil => exact (append_empty start).symm
  | cons first rest ih =>
      rw [List.foldl_cons, ih, append_assoc]
      rfl

end Journal

end Reassembly
