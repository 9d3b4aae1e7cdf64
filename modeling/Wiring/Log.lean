import Wiring.Error

/-!
# The log

A pass reports what it does as it goes.  Some entries open a span, named after
what is being done; the others are events of some severity.  An entry holds the
facts it reports, and its fields say how a reader sees them.
-/

namespace Wiring

/-- One thing that a pass reports. -/
inductive LogEntry where
  /-- A value is about to be bound to the members of its type. -/
  | injecting (marker target valueType : String)
  /-- Named resources are about to be bound. -/
  | injectingResources (marker target : String)
  /-- A scan begins; a scan of no type has no root. -/
  | discovering (scope : MemberScope) (root? : Option String)
  /-- A scan accepted a member. -/
  | accepted (member : String) (depth : Nat)
  /-- A cached result was handed out instead of a scan. -/
  | cacheHit (root : String)
  /-- A value was bound to a member. -/
  | bound (member name : String)
  /-- A member was left out, and why. -/
  | skipped (member name : String) (error : BindError)
  deriving DecidableEq, Repr

/-- How serious an event is. -/
inductive Severity where
  | trace
  | debug
  | warn
  deriving DecidableEq, Repr

/-- The word for a severity. -/
def Severity.word : Severity → String
  | .trace => "trace"
  | .debug => "debug"
  | .warn => "warn"

/-- What kind of entry a reader sees. -/
inductive LogHeading where
  | span (name : String)
  | event (severity : Severity)
  deriving DecidableEq, Repr

/-- The content of a field. -/
inductive LogField where
  | text (content : String)
  | number (content : Nat)
  deriving DecidableEq, Repr

namespace LogEntry

/-- Whether an entry opens a span or is an event.  Only a member that was left out
is worth a warning. -/
def heading : LogEntry → LogHeading
  | injecting .. => .span "inject"
  | injectingResources .. => .span "inject_resources"
  | discovering .. => .span "discover"
  | accepted .. => .event .debug
  | cacheHit .. => .event .trace
  | bound .. => .event .debug
  | skipped .. => .event .warn

/-- The fields of an entry, the message of an event among them. -/
def fields : LogEntry → List (String × LogField)
  | injecting marker target valueType =>
      [("marker", .text marker), ("target", .text target), ("value", .text valueType)]
  | injectingResources marker target => [("marker", .text marker), ("target", .text target)]
  | discovering scope root? =>
      [("scope", .text scope.word), ("root", .text (root?.getD TypeId.absentName))]
  | accepted member depth =>
      [("message", .text "accepted member"), ("member", .text member), ("depth", .number depth)]
  | cacheHit root => [("message", .text "discovery cache hit"), ("root", .text root)]
  | bound member name =>
      [("message", .text "bound member"), ("member", .text member), ("name", .text name)]
  | skipped member name error =>
      [("message", .text "could not bind member, skipping"), ("member", .text member),
       ("name", .text name), ("error", .text error.message)]

end LogEntry

end Wiring
