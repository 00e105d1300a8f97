import Reassembly.ErrorChain

namespace Reassembly

/-!
# Message handlers

A handler is called with each assembled message.  What it does may depend on
everything it has seen before, so it is a state together with a function that
answers a delivery and moves the state on.

Besides accepting or rejecting the message, a handler may panic, and it may
replace the session's size limit while it is being called.
-/

/-- The arguments of one handler call: a buffer and the window of it that is
the message. -/
structure Delivery where
  buffer : ByteArray
  offset : Nat
  length : Nat

namespace Delivery

/-- Deliveries are compared part by part, and buffers byte by byte. -/
instance : DecidableEq Delivery := fun left right =>
  decidable_of_decidable_of_iff
    (p := left.buffer.data = right.buffer.data ∧
      left.offset = right.offset ∧ left.length = right.length) <| by
    rcases left with ⟨buffer, _, _⟩
    rcases right with ⟨other, _, _⟩
    rw [Delivery.mk.injEq, ByteArray.ext_iff]

def whole (message : ByteArray) : Delivery :=
  ⟨message, 0, message.size⟩

def window (delivery : Delivery) : ByteArray :=
  delivery.buffer.extract delivery.offset (delivery.offset + delivery.length)

@[simp] theorem window_whole (message : ByteArray) : (whole message).window = message := by
  simp [whole, window, ByteArray.extract_zero_size]

end Delivery

/-- What a panic carries: a text, or some other value that has none. -/
inductive PanicPayload where
  | text (words : String)
  | value
deriving DecidableEq

namespace PanicPayload

/-- A text is rendered as it is, any other value by a placeholder. -/
def render : PanicPayload → String
  | text words => words
  | value => "Any \x7b .. \x7d"

end PanicPayload

/-- How a handler call ended. -/
inductive Verdict where
  | accept
  | reject (error : ErrorChain)
  | panic (payload : PanicPayload)
deriving DecidableEq

/-- All that a handler call does: it may first store a new size limit in the
session, and then it ends. -/
structure Reply where
  newRawLimit : Option Int64
  verdict : Verdict
deriving DecidableEq

namespace Reply

def accept : Reply :=
  ⟨none, .accept⟩

instance : Inhabited Reply := ⟨accept⟩

end Reply

/-- A handler in the middle of its life. -/
structure Handler (σ : Type) where
  state : σ
  respond : σ → Delivery → Reply × σ

namespace Handler

def call {σ : Type} (handler : Handler σ) (delivery : Delivery) : Reply × Handler σ :=
  let answer := handler.respond handler.state delivery
  (answer.1, { handler with state := answer.2 })

def accepting : Handler Unit :=
  ⟨(), fun state _ => (.accept, state)⟩

/-- A handler that gives these replies in turn, and accepts once they are
used up. -/
def ofReplies (replies : List Reply) : Handler (List Reply) :=
  ⟨replies, fun remaining _ =>
    match remaining with
    | [] => (.accept, [])
    | reply :: rest => (reply, rest)⟩

end Handler

end Reassembly
