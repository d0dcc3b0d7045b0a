import Telemetry.Attempt

/-!
# Spans

The span that is active while a piece of work runs. A span can be asked to set attributes. What
becomes of a request is up to the tracer that made the span: it may depend on the attribute, and on
all that the span was asked before.
-/

namespace Telemetry

/-- The identity of a span, by which records and spans are correlated. -/
structure SpanContext where
  /-- The trace that the span belongs to. -/
  traceId : BitVec 128
  /-- The span itself. -/
  spanId : BitVec 64
  /-- The flags of the trace. -/
  flags : UInt8
deriving DecidableEq, Repr

/-- Whether a context identifies a span: neither of its two numbers is zero. -/
def SpanContext.isValid (context : SpanContext) : Bool := context.traceId ≠ 0 && context.spanId ≠ 0

namespace Span

/-- What a span does when it is asked to set an attribute. -/
inductive Reply where
  /-- The span has the attribute from then on. -/
  | sets
  /-- The span stays as it was. It may not be recorded, may have ended, or may belong to another
  process. -/
  | ignores
  /-- The span panics, and does not have the attribute. -/
  | panics (panic : Panic)
deriving DecidableEq, Repr

/-- A request to set an attribute that was made, with what the span did. -/
structure Exchange where
  /-- The key of the attribute. -/
  key : String
  /-- Its value. -/
  value : String
  /-- What the span did. -/
  reply : Reply
deriving DecidableEq, Repr

/-- Whether the request ended in a panic. -/
def Exchange.panicked (exchange : Exchange) : Bool := exchange.reply matches .panics _

/-- The attribute that the request left behind, if it did. -/
def Exchange.attribute? (exchange : Exchange) : Option (String × String) :=
  if exchange.reply = .sets then some (exchange.key, exchange.value) else none

/-- A request to set an attribute that is about to be made. -/
structure Request where
  /-- The requests before it. -/
  past : List Exchange
  /-- The key of the attribute. -/
  key : String
  /-- Its value. -/
  value : String
deriving DecidableEq, Repr

end Span

/-- A span, with the requests that were made of it. -/
structure Span where
  /-- The identity of the span. -/
  context : SpanContext
  /-- The panic that a request ends in, if it does and is not ignored. -/
  failure : Span.Request → Option Panic := fun _ => none
  /-- Whether a request is ignored. A span that is kept behind a lock ignores requests once one of
  them has panicked, since this leaves the lock broken. -/
  ignores : Span.Request → Bool := fun request => request.past.any (·.panicked)
  /-- The requests so far, in order. -/
  past : List Span.Exchange := []

namespace Span

/-- What the span does when it is asked to set an attribute. -/
def reply (span : Span) (key value : String) : Reply :=
  let request : Request := { past := span.past, key, value }
  if span.ignores request then .ignores else (span.failure request).elim .sets .panics

/-- The span after it was asked to set an attribute. -/
def asked (key value : String) (span : Span) : Span :=
  { span with past := span.past ++ [{ key, value, reply := span.reply key value }] }

/-- The attributes that were set, in order. -/
def attributes (span : Span) : List (String × String) := span.past.filterMap (·.attribute?)

/-- How a request ends for the one who made it. An ignored request does not show. -/
def Reply.outcome : Reply → Except Panic Unit
  | .sets | .ignores => .ok ()
  | .panics panic => .error panic

/-- Asks a span to set an attribute. -/
def setAttribute (key value : String) : Attempt Span Unit := fun span =>
  ((span.reply key value).outcome, span.asked key value)

end Span

end Telemetry
