import GuestBoundary.Span

/-! The journal of an instance: what scopes note about the spans that they place and release. -/

namespace GuestBoundary

/-- What a scope notes when it opens and when it closes. -/
inductive Event where
  /-- Bytes have been placed in a span. -/
  | opened (span : Span)
  /-- The span is about to be released. -/
  | closing (span : Span)
  deriving DecidableEq

/-- The notes of an instance, newest first. Nothing that runs reads them. -/
abbrev Journal := List Event

end GuestBoundary
