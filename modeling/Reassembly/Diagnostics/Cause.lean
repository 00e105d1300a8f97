import Reassembly.ErrorChain
import Reassembly.Text.Quoted

namespace Reassembly
namespace Diagnostics

/-!
# Causes

A cause describes an error for the log: a summary, lines that tell where it
came from, causes that were suppressed on the way, and the cause beneath it.
An error chain is described by a cause without frames or suppressed causes
that nests as deep as the chain goes.
-/

inductive Cause where
  | mk (summary : String) (frames : List String) (suppressed : List Cause)
      (cause : Option Cause)

namespace Cause

/-- The one line that says what went wrong. -/
def summary : Cause → String
  | mk summary _ _ _ => summary

/-- The lines that tell where the error came from. -/
def frames : Cause → List String
  | mk _ frames _ _ => frames

/-- The causes suppressed on the way, in order. -/
def suppressed : Cause → List Cause
  | mk _ _ suppressed _ => suppressed

def cause : Cause → Option Cause
  | mk _ _ _ cause => cause

mutual

def decEq : (first second : Cause) → Decidable (first = second)
  | mk summary frames suppressed cause, mk summary' frames' suppressed' cause' =>
      if summaries : summary = summary' then
        if sameFrames : frames = frames' then
          match decEqList suppressed suppressed', decEqOption cause cause' with
          | isTrue sameSuppressed, isTrue sameCause =>
              isTrue (by rw [summaries, sameFrames, sameSuppressed, sameCause])
          | isFalse differ, _ => isFalse fun equal => differ (mk.inj equal).2.2.1
          | _, isFalse differ => isFalse fun equal => differ (mk.inj equal).2.2.2
        else isFalse fun equal => sameFrames (mk.inj equal).2.1
      else isFalse fun equal => summaries (mk.inj equal).1

def decEqList : (first second : List Cause) → Decidable (first = second)
  | [], [] => isTrue rfl
  | [], _ :: _ => isFalse nofun
  | _ :: _, [] => isFalse nofun
  | head :: tail, head' :: tail' =>
      match decEq head head', decEqList tail tail' with
      | isTrue heads, isTrue tails => isTrue (by rw [heads, tails])
      | isFalse differ, _ => isFalse fun equal => differ (List.cons.inj equal).1
      | _, isFalse differ => isFalse fun equal => differ (List.cons.inj equal).2

def decEqOption : (first second : Option Cause) → Decidable (first = second)
  | none, none => isTrue rfl
  | none, some _ => isFalse nofun
  | some _, none => isFalse nofun
  | some inner, some inner' =>
      match decEq inner inner' with
      | isTrue same => isTrue (by rw [same])
      | isFalse differ => isFalse fun equal => differ (Option.some.inj equal)

end

instance : DecidableEq Cause := decEq

def ofSummary (summary : String) : Cause :=
  mk summary [] [] none

/-- The description of an error whose sources have these texts. -/
def ofTexts (text : String) : List String → Cause
  | [] => ofSummary text
  | source :: sources => mk text [] [] (some (ofTexts source sources))

def ofChain (chain : ErrorChain) : Cause :=
  ofTexts chain.text chain.sources

/-- Add frame lines after those already there. -/
def withFrames (description : Cause) (more : List String) : Cause :=
  mk description.summary (description.frames ++ more) description.suppressed description.cause

/-- Add a suppressed cause after those already there. -/
def withSuppressed (description : Cause) (another : Cause) : Cause :=
  mk description.summary description.frames (description.suppressed ++ [another])
    description.cause

def withCause (description : Cause) (beneath : Cause) : Cause :=
  mk description.summary description.frames description.suppressed (some beneath)

def bracketed (items : List (List Char)) : List Char :=
  '[' :: List.intercalate [',', ' '] items ++ [']']

mutual

def describe : Cause → List Char
  | mk summary frames suppressed cause =>
      "Cause \x7b summary: ".toList ++ Text.quoted summary ++
        ", frames: ".toList ++ bracketed (frames.map Text.quoted) ++
        ", suppressed: ".toList ++ bracketed (describeAll suppressed) ++
        ", cause: ".toList ++ describeOption cause ++ " \x7d".toList

def describeAll : List Cause → List (List Char)
  | [] => []
  | cause :: causes => describe cause :: describeAll causes

def describeOption : Option Cause → List Char
  | none => "None".toList
  | some cause => "Some(".toList ++ describe cause ++ [')']

end

end Cause

end Diagnostics
end Reassembly
