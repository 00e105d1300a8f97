namespace Reassembly

/-!
# Error chains

An error has a text, and may have been caused by another error, which again
has a text and may have a cause.  The chain lists these texts from the error
itself down to its root.
-/

/-- An error with the texts of the errors below it, nearest first. -/
structure ErrorChain where
  text : String
  sources : List String
deriving DecidableEq, Inhabited

namespace ErrorChain

def ofText (text : String) : ErrorChain :=
  ⟨text, []⟩

/-- The chain of these texts.  No text at all makes one error with an empty
text. -/
def ofTexts : List String → ErrorChain
  | [] => ofText ""
  | text :: sources => ⟨text, sources⟩

/-- All texts of the chain, the error's own first. -/
def texts (chain : ErrorChain) : List String :=
  chain.text :: chain.sources

/-- A new error caused by this chain. -/
def causes (chain : ErrorChain) (text : String) : ErrorChain :=
  ⟨text, chain.texts⟩

end ErrorChain

end Reassembly
