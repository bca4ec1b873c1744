import Transit.Realtime.Message
import Transit.Realtime.Wire
import Transit.Number.Integer
set_option autoImplicit false

/-!
Reading a GTFS realtime feed message from its bytes: the schema of the format, and the parts that
the gateway looks at.
-/

namespace Transit.Realtime

namespace Schema

open Wire

def modifiedTrip : Shape := .message [(1, .text), (2, .text), (3, .text), (4, .text)]

def trip : Shape := .message [(1, .text), (2, .text), (3, .text), (4, .number), (5, .text),
  (6, .number), (7, modifiedTrip)]

def vehicleDescriptor : Shape := .message [(1, .text), (2, .text), (3, .text), (4, .number)]

def timeEvent : Shape := .message [(1, .number), (2, .number), (3, .number), (4, .number)]

def stopTimeProperties : Shape := .message [(1, .text), (2, .text), (3, .number), (4, .number)]

def stopTimeUpdate : Shape := .message [(1, .number), (2, timeEvent), (3, timeEvent), (4, .text),
  (5, .number), (6, stopTimeProperties), (7, .number)]

def tripProperties : Shape := .message [(1, .text), (2, .text), (3, .text), (4, .text), (5, .text),
  (6, .text)]

def tripUpdate : Shape := .message [(1, trip), (2, stopTimeUpdate), (3, vehicleDescriptor),
  (4, .number), (5, .number), (6, tripProperties)]

def position : Shape := .message [(1, .word32), (2, .word32), (3, .word32), (4, .word64),
  (5, .word32)]

def carriage : Shape := .message [(1, .text), (2, .text), (3, .number), (4, .number), (5, .number)]

def vehicle : Shape := .message [(1, trip), (2, position), (3, .number), (4, .number), (5, .number),
  (6, .number), (7, .text), (8, vehicleDescriptor), (9, .number), (10, .number), (11, carriage)]

def period : Shape := .message [(1, .number), (2, .number)]

def selector : Shape := .message [(1, .text), (2, .text), (3, .number), (4, trip), (5, .text),
  (6, .number)]

/-- One text in several languages. -/
def wording : Shape := .message [(1, .message [(1, .text), (2, .text)])]

def image : Shape := .message [(1, .message [(1, .text), (2, .text), (3, .text)])]

def alert : Shape := .message [(1, period), (5, selector), (6, .number), (7, .number),
  (8, wording), (10, wording), (11, wording), (12, wording), (13, wording),
  (14, .number), (15, image), (16, wording), (17, wording), (18, wording)]

def shape : Shape := .message [(1, .text), (2, .text)]

def stop : Shape := .message [(1, .text), (2, wording), (3, wording), (4, wording),
  (5, wording), (6, .word32), (7, .word32), (8, .text), (9, wording), (11, .text),
  (12, .text), (13, .number), (14, .text), (15, wording)]

def stopSelector : Shape := .message [(1, .number), (2, .text)]

def modification : Shape := .message [(1, stopSelector), (2, stopSelector), (3, .number),
  (4, .message [(1, .number), (2, .text)]), (5, .text), (6, .number)]

def tripModifications : Shape := .message [(1, .message [(1, .text), (2, .text)]), (2, .text),
  (3, .text), (4, modification)]

def entity : Shape := .message [(1, .text), (2, .number), (3, tripUpdate), (4, vehicle), (5, alert),
  (6, shape), (7, stop), (8, tripModifications)]

def header : Shape := .message [(1, .text), (2, .number), (3, .number), (4, .text)]

def feed : List (Nat × Shape) := [(1, header), (2, entity)]

end Schema

namespace Wire.Fields

/-- A signed word: the low bits of the number, read in two's complement. -/
def int32? (f : Fields) (number : Nat) : Option Int :=
  (f.number? number).map fun n => Number.Range.int32.wrap n

def int64? (f : Fields) (number : Nat) : Option Int :=
  (f.number? number).map fun n => Number.Range.int64.wrap n

def nat32? (f : Fields) (number : Nat) : Option Nat :=
  (f.number? number).map (· % Nat.pow 2 32)

def bool? (f : Fields) (number : Nat) : Option Bool :=
  (f.number? number).map (· != 0)

def single? (f : Fields) (number : Nat) : Option Float32 :=
  (f.word32? number).map fun n => Float32.ofBits (UInt32.ofNat n)

end Wire.Fields

open Wire (Fields)

def TripDescriptor.ofFields (f : Fields) : TripDescriptor where
  tripId := f.text? 1
  routeId := f.text? 5
  directionId := f.nat32? 6
  scheduleRelationship := f.int32? 4

def TimeEvent.ofFields (f : Fields) : TimeEvent where
  delay := f.int32? 1
  time := f.int64? 2
  uncertainty := f.int32? 3

def StopTimeUpdate.ofFields (f : Fields) : StopTimeUpdate where
  stopSequence := f.nat32? 1
  stopId := f.text? 4
  arrival := (f.message? 2).map TimeEvent.ofFields
  departure := (f.message? 3).map TimeEvent.ofFields
  scheduleRelationship := f.int32? 5

def TripUpdate.ofFields (f : Fields) : TripUpdate where
  trip := ((f.message? 1).map TripDescriptor.ofFields).getD {}
  timestamp := f.number? 4
  delay := f.int32? 5
  stopTimeUpdates := (f.messages 2).map StopTimeUpdate.ofFields

def VehicleDescriptor.ofFields (f : Fields) : VehicleDescriptor where
  id := f.text? 1
  label := f.text? 2
  licensePlate := f.text? 3

def Position.ofFields (f : Fields) : Position where
  latitude := (f.single? 1).getD 0
  longitude := (f.single? 2).getD 0
  bearing := f.single? 3
  speed := f.single? 5

def Vehicle.ofFields (f : Fields) : Vehicle where
  trip := (f.message? 1).map TripDescriptor.ofFields
  vehicle := (f.message? 8).map VehicleDescriptor.ofFields
  position := (f.message? 2).map Position.ofFields
  currentStopSequence := f.nat32? 3
  stopId := f.text? 7
  currentStatus := f.int32? 4
  timestamp := f.number? 5
  congestionLevel := f.int32? 6

def ActivePeriod.ofFields (f : Fields) : ActivePeriod where
  start := f.number? 1
  stop := f.number? 2

def EntitySelector.ofFields (f : Fields) : EntitySelector where
  agencyId := f.text? 1
  routeId := f.text? 2
  trip := (f.message? 4).map TripDescriptor.ofFields
  stopId := f.text? 5

def LanguageText.listOfFields (f : Fields) : List LanguageText :=
  (f.messages 1).map fun t => { text := (t.text? 1).getD "", language := t.text? 2 }

def AlertMessage.ofFields (f : Fields) : AlertMessage where
  activePeriods := (f.messages 1).map ActivePeriod.ofFields
  informedEntities := (f.messages 5).map EntitySelector.ofFields
  cause := f.int32? 6
  effect := f.int32? 7
  severityLevel := f.int32? 14
  headerText := (f.message? 10).map LanguageText.listOfFields
  descriptionText := (f.message? 11).map LanguageText.listOfFields
  ttsHeaderText := (f.message? 12).map LanguageText.listOfFields
  ttsDescriptionText := (f.message? 13).map LanguageText.listOfFields
  url := (f.message? 8).map LanguageText.listOfFields

def Entity.ofFields (f : Fields) : Entity where
  id := (f.text? 1).getD ""
  isDeleted := f.bool? 2
  tripUpdate := (f.message? 3).map TripUpdate.ofFields
  vehicle := (f.message? 4).map Vehicle.ofFields
  alert := (f.message? 5).map AlertMessage.ofFields

/-- The message that bytes encode; `none` when they are malformed. -/
def Message.decode? (bytes : Bytes) : Option Message := do
  let f : Fields := ⟨← Wire.decode? Schema.feed bytes⟩
  some {
    timestamp := (f.message? 1).bind (·.number? 3)
    entities := (f.messages 2).map Entity.ofFields }

end Transit.Realtime
