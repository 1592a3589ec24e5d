import GuestBoundary.Value

/-! Spans of guest memory, and the one-word and two-word forms in which guests return them. -/

namespace GuestBoundary

/-- A pointer and a length in guest memory, both unsigned. -/
structure Span where
  pointer : UInt32
  length : UInt32
  deriving DecidableEq, Inhabited

/-- The two forms in which a guest export returns a span. -/
inductive ResultForm where
  /-- One 64-bit word with the pointer in its high half. -/
  | packed
  /-- Two 32-bit words, pointer first. -/
  | pair
  deriving DecidableEq, Inhabited

/-- The spelling of a form in messages. -/
def ResultForm.text : ResultForm → String
  | .packed => "Packed"
  | .pair => "Pair"

namespace Span

/-- A span as one word: the pointer in the high 32 bits, the length in the low ones. -/
def packed (span : Span) : UInt64 :=
  (span.pointer.toUInt64 <<< 32) ||| span.length.toUInt64

/-- The span in a word. -/
def ofPacked (word : UInt64) : Span :=
  ⟨(word >>> 32).toUInt32, word.toUInt32⟩

/-- A span as two values, pointer first. -/
def pair (span : Span) : List Value := [.i32 span.pointer, .i32 span.length]

/-- The result list that carries a span in a form. -/
def results (span : Span) : ResultForm → List Value
  | .packed => [.i64 span.packed]
  | .pair => span.pair

/-- The span in a result list of either form. -/
def ofResults? : List Value → Option Span
  | [.i64 word] => some (ofPacked word)
  | [.i32 pointer, .i32 length] => some ⟨pointer, length⟩
  | _ => none

/-- The span in a result list of one form. -/
def ofForm? : ResultForm → List Value → Option Span
  | .packed, [.i64 word] => some (ofPacked word)
  | .pair, [.i32 pointer, .i32 length] => some ⟨pointer, length⟩
  | _, _ => none

end Span

end GuestBoundary
