set_option autoImplicit false

/-!
Topic keys, under which the messages of a realtime feed are stored: one key for each feed and kind
of message.
-/

namespace Transit.Realtime

inductive TopicKind
  | tripUpdates
  | alerts
  | vehiclePositions
  deriving DecidableEq, Repr, Inhabited

namespace TopicKind

def all : List TopicKind := [.tripUpdates, .alerts, .vehiclePositions]

def name : TopicKind → String
  | .tripUpdates => "realtime_trip_updates"
  | .alerts => "realtime_alerts"
  | .vehiclePositions => "realtime_vehicle_positions"

def ofName? (s : String) : Option TopicKind :=
  all.find? (·.name == s)

end TopicKind

/-- A feed's messages of one kind. -/
structure Topic where
  feed : String
  kind : TopicKind
  deriving DecidableEq, Repr, Inhabited

namespace Topic

def keyStart : String := "rtdata:"

def key (t : Topic) : String :=
  keyStart ++ t.feed ++ ":" ++ t.kind.name

/-- The characters before and after the last colon. -/
def splitLast? (cs : List Char) : Option (List Char × List Char) :=
  match cs.reverse.dropWhile (· != ':') with
  | [] => none
  | _ :: front => some (front.reverse, (cs.reverse.takeWhile (· != ':')).reverse)

/-- The topic of a key. A feed has a name, which may itself hold colons. -/
def ofKey? (s : String) : Option Topic :=
  if keyStart.toList.isPrefixOf s.toList then
    match splitLast? (s.toList.drop keyStart.length) with
    | some ([], _) => none
    | some (feed, kind) => (TopicKind.ofName? (String.ofList kind)).map (⟨String.ofList feed, ·⟩)
    | none => none
  else none

end Topic

end Transit.Realtime
