import SessionRegistry.Error

/-!
# Session filters

The conditions that a listing of sessions can be asked to satisfy. Every condition is optional, and
those that are present must all hold.
-/

namespace SessionRegistry

/-- Whether a list occurs in another one as a contiguous part. -/
def occursIn {α : Type} [BEq α] (part : List α) : List α → Bool
  | [] => part.isEmpty
  | a :: rest => part.isPrefixOf (a :: rest) || occursIn part rest

/-- The conditions on the sessions of a listing. -/
structure SessionFilter where
  xid : Option Xid := none
  applicationId : Option String := none
  status : Option GlobalStatus := none
  /-- A text that the session's name must contain. -/
  name : Option String := none
  /-- The earliest begin time. -/
  timeStart : Option Millis := none
  /-- The latest begin time. -/
  timeEnd : Option Millis := none
  /-- Whether the listed sessions show their branches. -/
  withBranch : Bool := false
  deriving DecidableEq, Repr, Inhabited

namespace SessionFilter

/-- A filter whose two time bounds exclude every session is refused. -/
def validate (filter : SessionFilter) : Except Error Unit :=
  match filter.timeStart, filter.timeEnd with
  | some first, some last =>
    if last < first then .error (.invalidQuery (.emptyTimeRange first last)) else .ok ()
  | _, _ => .ok ()

/-- Whether a session satisfies every condition that is present. -/
def accepts (filter : SessionFilter) (session : Session) : Bool :=
  filter.xid.all (session.xid == ·)
    && filter.applicationId.all (session.applicationId == ·)
    && filter.status.all (session.status == ·)
    && filter.name.all (fun part => occursIn part.toList session.name.toList)
    && filter.timeStart.all (fun first => decide (first ≤ session.beginTime))
    && filter.timeEnd.all (fun last => decide (session.beginTime ≤ last))

end SessionFilter

end SessionRegistry
