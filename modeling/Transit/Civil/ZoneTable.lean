import Transit.Civil.Zone
set_option autoImplicit false

/-!
The zones that are known by name. Changes of offset are listed one by one from 1968 on for as long
as they follow no rule, and by rule from then to the end of the table.

The table is an excerpt and stands for the whole of the time zone database: it has 84 of its names
(`all`), each zone with a single offset for all time before 1968, and `find?` knows no other name.
What holds of zones in general is said of every value of `Zone`; only what is said of the members of
`all` rests on the excerpt.
-/

namespace Transit.Zone

/-- A yearly change of offset: on the `week`-th `weekday` (Monday is 0, the fifth is the last) of a
month, when the clock, `before` seconds ahead of UTC, shows `time` seconds after midnight. -/
structure Turn where
  month : Nat
  week : Nat
  weekday : Nat
  time : Int
  before : Int
  after : Int
  deriving DecidableEq, Repr

/-- The last year for which changes are tabulated. -/
def lastYear : Nat := 2099

def Turn.inYear (t : Turn) (year : Nat) : OffsetChange :=
  ⟨(Date.nthWeekday year t.month t.week t.weekday).day * secondsPerDay + t.time - t.before, t.after⟩

/-- The changes of every year from `first` to the end of the table. -/
def yearly (first : Nat) (turns : List Turn) : List OffsetChange :=
  (List.range (lastYear + 1 - first)).flatMap fun k => turns.map (·.inYear (first + k))

def losAngeles : Zone :=
  ⟨"America/Los_Angeles", -28800, [
    ⟨-52927200, -25200⟩, ⟨-37206000, -28800⟩, ⟨-21477600, -25200⟩, ⟨-5756400, -28800⟩,
    ⟨9972000, -25200⟩, ⟨25693200, -28800⟩, ⟨41421600, -25200⟩, ⟨57747600, -28800⟩,
    ⟨73476000, -25200⟩, ⟨89197200, -28800⟩, ⟨104925600, -25200⟩, ⟨120646800, -28800⟩,
    ⟨126698400, -25200⟩, ⟨152096400, -28800⟩, ⟨162381600, -25200⟩, ⟨183546000, -28800⟩,
    ⟨199274400, -25200⟩, ⟨215600400, -28800⟩, ⟨230724000, -25200⟩, ⟨247050000, -28800⟩,
    ⟨262778400, -25200⟩, ⟨278499600, -28800⟩, ⟨294228000, -25200⟩, ⟨309949200, -28800⟩,
    ⟨325677600, -25200⟩, ⟨341398800, -28800⟩, ⟨357127200, -25200⟩, ⟨372848400, -28800⟩,
    ⟨388576800, -25200⟩, ⟨404902800, -28800⟩, ⟨420026400, -25200⟩, ⟨436352400, -28800⟩,
    ⟨452080800, -25200⟩, ⟨467802000, -28800⟩, ⟨483530400, -25200⟩, ⟨499251600, -28800⟩,
    ⟨514980000, -25200⟩, ⟨530701200, -28800⟩, ⟨544615200, -25200⟩, ⟨562150800, -28800⟩,
    ⟨576064800, -25200⟩, ⟨594205200, -28800⟩, ⟨607514400, -25200⟩, ⟨625654800, -28800⟩,
    ⟨638964000, -25200⟩, ⟨657104400, -28800⟩, ⟨671018400, -25200⟩, ⟨688554000, -28800⟩,
    ⟨702468000, -25200⟩, ⟨720003600, -28800⟩, ⟨733917600, -25200⟩, ⟨752058000, -28800⟩,
    ⟨765367200, -25200⟩, ⟨783507600, -28800⟩, ⟨796816800, -25200⟩, ⟨814957200, -28800⟩,
    ⟨828871200, -25200⟩, ⟨846406800, -28800⟩, ⟨860320800, -25200⟩, ⟨877856400, -28800⟩,
    ⟨891770400, -25200⟩, ⟨909306000, -28800⟩, ⟨923220000, -25200⟩, ⟨941360400, -28800⟩,
    ⟨954669600, -25200⟩, ⟨972810000, -28800⟩, ⟨986119200, -25200⟩, ⟨1004259600, -28800⟩,
    ⟨1018173600, -25200⟩, ⟨1035709200, -28800⟩, ⟨1049623200, -25200⟩, ⟨1067158800, -28800⟩,
    ⟨1081072800, -25200⟩, ⟨1099213200, -28800⟩, ⟨1112522400, -25200⟩, ⟨1130662800, -28800⟩,
    ⟨1143972000, -25200⟩, ⟨1162112400, -28800⟩] ++ yearly 2007 [⟨3, 2, 6, 7200, -28800, -25200⟩, ⟨11, 1, 6, 7200, -25200, -28800⟩]⟩

def newYork : Zone :=
  ⟨"America/New_York", -18000, [
    ⟨-52938000, -14400⟩, ⟨-37216800, -18000⟩, ⟨-21488400, -14400⟩, ⟨-5767200, -18000⟩,
    ⟨9961200, -14400⟩, ⟨25682400, -18000⟩, ⟨41410800, -14400⟩, ⟨57736800, -18000⟩,
    ⟨73465200, -14400⟩, ⟨89186400, -18000⟩, ⟨104914800, -14400⟩, ⟨120636000, -18000⟩,
    ⟨126687600, -14400⟩, ⟨152085600, -18000⟩, ⟨162370800, -14400⟩, ⟨183535200, -18000⟩,
    ⟨199263600, -14400⟩, ⟨215589600, -18000⟩, ⟨230713200, -14400⟩, ⟨247039200, -18000⟩,
    ⟨262767600, -14400⟩, ⟨278488800, -18000⟩, ⟨294217200, -14400⟩, ⟨309938400, -18000⟩,
    ⟨325666800, -14400⟩, ⟨341388000, -18000⟩, ⟨357116400, -14400⟩, ⟨372837600, -18000⟩,
    ⟨388566000, -14400⟩, ⟨404892000, -18000⟩, ⟨420015600, -14400⟩, ⟨436341600, -18000⟩,
    ⟨452070000, -14400⟩, ⟨467791200, -18000⟩, ⟨483519600, -14400⟩, ⟨499240800, -18000⟩,
    ⟨514969200, -14400⟩, ⟨530690400, -18000⟩, ⟨544604400, -14400⟩, ⟨562140000, -18000⟩,
    ⟨576054000, -14400⟩, ⟨594194400, -18000⟩, ⟨607503600, -14400⟩, ⟨625644000, -18000⟩,
    ⟨638953200, -14400⟩, ⟨657093600, -18000⟩, ⟨671007600, -14400⟩, ⟨688543200, -18000⟩,
    ⟨702457200, -14400⟩, ⟨719992800, -18000⟩, ⟨733906800, -14400⟩, ⟨752047200, -18000⟩,
    ⟨765356400, -14400⟩, ⟨783496800, -18000⟩, ⟨796806000, -14400⟩, ⟨814946400, -18000⟩,
    ⟨828860400, -14400⟩, ⟨846396000, -18000⟩, ⟨860310000, -14400⟩, ⟨877845600, -18000⟩,
    ⟨891759600, -14400⟩, ⟨909295200, -18000⟩, ⟨923209200, -14400⟩, ⟨941349600, -18000⟩,
    ⟨954658800, -14400⟩, ⟨972799200, -18000⟩, ⟨986108400, -14400⟩, ⟨1004248800, -18000⟩,
    ⟨1018162800, -14400⟩, ⟨1035698400, -18000⟩, ⟨1049612400, -14400⟩, ⟨1067148000, -18000⟩,
    ⟨1081062000, -14400⟩, ⟨1099202400, -18000⟩, ⟨1112511600, -14400⟩, ⟨1130652000, -18000⟩,
    ⟨1143961200, -14400⟩, ⟨1162101600, -18000⟩] ++ yearly 2007 [⟨3, 2, 6, 7200, -18000, -14400⟩, ⟨11, 1, 6, 7200, -14400, -18000⟩]⟩

def saoPaulo : Zone :=
  ⟨"America/Sao_Paulo", -7200, [
    ⟨-57967200, -10800⟩, ⟨499748400, -7200⟩, ⟨511236000, -10800⟩, ⟨530593200, -7200⟩,
    ⟨540266400, -10800⟩, ⟨562129200, -7200⟩, ⟨571197600, -10800⟩, ⟨592974000, -7200⟩,
    ⟨602042400, -10800⟩, ⟨624423600, -7200⟩, ⟨634701600, -10800⟩, ⟨656478000, -7200⟩,
    ⟨666756000, -10800⟩, ⟨687927600, -7200⟩, ⟨697600800, -10800⟩, ⟨719982000, -7200⟩,
    ⟨728445600, -10800⟩, ⟨750826800, -7200⟩, ⟨761709600, -10800⟩, ⟨782276400, -7200⟩,
    ⟨793159200, -10800⟩, ⟨813726000, -7200⟩, ⟨824004000, -10800⟩, ⟨844570800, -7200⟩,
    ⟨856058400, -10800⟩, ⟨876106800, -7200⟩, ⟨888717600, -10800⟩, ⟨908074800, -7200⟩,
    ⟨919562400, -10800⟩, ⟨938919600, -7200⟩, ⟨951616800, -10800⟩, ⟨970974000, -7200⟩,
    ⟨982461600, -10800⟩, ⟨1003028400, -7200⟩, ⟨1013911200, -10800⟩, ⟨1036292400, -7200⟩,
    ⟨1045360800, -10800⟩, ⟨1066532400, -7200⟩, ⟨1076810400, -10800⟩, ⟨1099364400, -7200⟩,
    ⟨1108864800, -10800⟩, ⟨1129431600, -7200⟩, ⟨1140314400, -10800⟩, ⟨1162695600, -7200⟩,
    ⟨1172368800, -10800⟩, ⟨1192330800, -7200⟩, ⟨1203213600, -10800⟩, ⟨1224385200, -7200⟩,
    ⟨1234663200, -10800⟩, ⟨1255834800, -7200⟩, ⟨1266717600, -10800⟩, ⟨1287284400, -7200⟩,
    ⟨1298167200, -10800⟩, ⟨1318734000, -7200⟩, ⟨1330221600, -10800⟩, ⟨1350788400, -7200⟩,
    ⟨1361066400, -10800⟩, ⟨1382238000, -7200⟩, ⟨1392516000, -10800⟩, ⟨1413687600, -7200⟩,
    ⟨1424570400, -10800⟩, ⟨1445137200, -7200⟩, ⟨1456020000, -10800⟩, ⟨1476586800, -7200⟩,
    ⟨1487469600, -10800⟩, ⟨1508036400, -7200⟩, ⟨1518919200, -10800⟩, ⟨1541300400, -7200⟩,
    ⟨1550368800, -10800⟩]⟩

def havana : Zone :=
  ⟨"America/Havana", -18000, [
    ⟨-54154800, -14400⟩, ⟨-41457600, -18000⟩, ⟨-21495600, -14400⟩, ⟨-5774400, -18000⟩,
    ⟨9954000, -14400⟩, ⟨25675200, -18000⟩, ⟨41403600, -14400⟩, ⟨57729600, -18000⟩,
    ⟨73458000, -14400⟩, ⟨87364800, -18000⟩, ⟨104907600, -14400⟩, ⟨118900800, -18000⟩,
    ⟨136357200, -14400⟩, ⟨150436800, -18000⟩, ⟨167806800, -14400⟩, ⟨183528000, -18000⟩,
    ⟨199256400, -14400⟩, ⟨215582400, -18000⟩, ⟨230706000, -14400⟩, ⟨247032000, -18000⟩,
    ⟨263365200, -14400⟩, ⟨276667200, -18000⟩, ⟨290581200, -14400⟩, ⟨308721600, -18000⟩,
    ⟨322030800, -14400⟩, ⟨340171200, -18000⟩, ⟨358318800, -14400⟩, ⟨371620800, -18000⟩,
    ⟨389768400, -14400⟩, ⟨403070400, -18000⟩, ⟨421218000, -14400⟩, ⟨434520000, -18000⟩,
    ⟨452667600, -14400⟩, ⟨466574400, -18000⟩, ⟨484117200, -14400⟩, ⟨498024000, -18000⟩,
    ⟨511333200, -14400⟩, ⟨529473600, -18000⟩, ⟨542782800, -14400⟩, ⟨560923200, -18000⟩,
    ⟨574837200, -14400⟩, ⟨592372800, -18000⟩, ⟨606286800, -14400⟩, ⟨623822400, -18000⟩,
    ⟨638946000, -14400⟩, ⟨655876800, -18000⟩, ⟨671000400, -14400⟩, ⟨687330000, -18000⟩,
    ⟨702450000, -14400⟩, ⟨718779600, -18000⟩, ⟨733899600, -14400⟩, ⟨750229200, -18000⟩,
    ⟨765349200, -14400⟩, ⟨781678800, -18000⟩, ⟨796798800, -14400⟩, ⟨813128400, -18000⟩,
    ⟨828853200, -14400⟩, ⟨844578000, -18000⟩, ⟨860302800, -14400⟩, ⟨876632400, -18000⟩,
    ⟨891147600, -14400⟩, ⟨909291600, -18000⟩, ⟨922597200, -14400⟩, ⟨941346000, -18000⟩,
    ⟨954651600, -14400⟩, ⟨972795600, -18000⟩, ⟨986101200, -14400⟩, ⟨1004245200, -18000⟩,
    ⟨1018155600, -14400⟩, ⟨1035694800, -18000⟩, ⟨1049605200, -14400⟩, ⟨1067144400, -18000⟩,
    ⟨1080450000, -14400⟩, ⟨1162098000, -18000⟩, ⟨1173589200, -14400⟩, ⟨1193547600, -18000⟩,
    ⟨1205643600, -14400⟩, ⟨1224997200, -18000⟩, ⟨1236488400, -14400⟩, ⟨1256446800, -18000⟩,
    ⟨1268542800, -14400⟩, ⟨1288501200, -18000⟩, ⟨1300597200, -14400⟩, ⟨1321160400, -18000⟩,
    ⟨1333256400, -14400⟩, ⟨1352005200, -18000⟩] ++ yearly 2013 [⟨3, 2, 6, 0, -18000, -14400⟩, ⟨11, 1, 6, 3600, -14400, -18000⟩]⟩

def stJohns : Zone :=
  ⟨"America/St_Johns", -12600, [
    ⟨-52943400, -9000⟩, ⟨-37222200, -12600⟩, ⟨-21493800, -9000⟩, ⟨-5772600, -12600⟩,
    ⟨9955800, -9000⟩, ⟨25677000, -12600⟩, ⟨41405400, -9000⟩, ⟨57731400, -12600⟩,
    ⟨73459800, -9000⟩, ⟨89181000, -12600⟩, ⟨104909400, -9000⟩, ⟨120630600, -12600⟩,
    ⟨136359000, -9000⟩, ⟨152080200, -12600⟩, ⟨167808600, -9000⟩, ⟨183529800, -12600⟩,
    ⟨199258200, -9000⟩, ⟨215584200, -12600⟩, ⟨230707800, -9000⟩, ⟨247033800, -12600⟩,
    ⟨262762200, -9000⟩, ⟨278483400, -12600⟩, ⟨294211800, -9000⟩, ⟨309933000, -12600⟩,
    ⟨325661400, -9000⟩, ⟨341382600, -12600⟩, ⟨357111000, -9000⟩, ⟨372832200, -12600⟩,
    ⟨388560600, -9000⟩, ⟨404886600, -12600⟩, ⟨420010200, -9000⟩, ⟨436336200, -12600⟩,
    ⟨452064600, -9000⟩, ⟨467785800, -12600⟩, ⟨483514200, -9000⟩, ⟨499235400, -12600⟩,
    ⟨514963800, -9000⟩, ⟨530685000, -12600⟩, ⟨544591860, -9000⟩, ⟨562127460, -12600⟩,
    ⟨576041460, -5400⟩, ⟨594178260, -12600⟩, ⟨607491060, -9000⟩, ⟨625631460, -12600⟩,
    ⟨638940660, -9000⟩, ⟨657081060, -12600⟩, ⟨670995060, -9000⟩, ⟨688530660, -12600⟩,
    ⟨702444660, -9000⟩, ⟨719980260, -12600⟩, ⟨733894260, -9000⟩, ⟨752034660, -12600⟩,
    ⟨765343860, -9000⟩, ⟨783484260, -12600⟩, ⟨796793460, -9000⟩, ⟨814933860, -12600⟩,
    ⟨828847860, -9000⟩, ⟨846383460, -12600⟩, ⟨860297460, -9000⟩, ⟨877833060, -12600⟩,
    ⟨891747060, -9000⟩, ⟨909282660, -12600⟩, ⟨923196660, -9000⟩, ⟨941337060, -12600⟩,
    ⟨954646260, -9000⟩, ⟨972786660, -12600⟩, ⟨986095860, -9000⟩, ⟨1004236260, -12600⟩,
    ⟨1018150260, -9000⟩, ⟨1035685860, -12600⟩, ⟨1049599860, -9000⟩, ⟨1067135460, -12600⟩,
    ⟨1081049460, -9000⟩, ⟨1099189860, -12600⟩, ⟨1112499060, -9000⟩, ⟨1130639460, -12600⟩,
    ⟨1143948660, -9000⟩, ⟨1162089060, -12600⟩, ⟨1173583860, -9000⟩, ⟨1194143460, -12600⟩,
    ⟨1205033460, -9000⟩, ⟨1225593060, -12600⟩, ⟨1236483060, -9000⟩, ⟨1257042660, -12600⟩,
    ⟨1268537460, -9000⟩, ⟨1289097060, -12600⟩, ⟨1299987060, -9000⟩, ⟨1320553800, -12600⟩] ++ yearly 2012 [⟨3, 2, 6, 7200, -12600, -9000⟩, ⟨11, 1, 6, 7200, -9000, -12600⟩]⟩

def knox : Zone :=
  ⟨"America/Indiana/Knox", -21600, [
    ⟨-52934400, -18000⟩, ⟨-37213200, -21600⟩, ⟨-21484800, -18000⟩, ⟨-5763600, -21600⟩,
    ⟨9964800, -18000⟩, ⟨25686000, -21600⟩, ⟨41414400, -18000⟩, ⟨57740400, -21600⟩,
    ⟨73468800, -18000⟩, ⟨89190000, -21600⟩, ⟨104918400, -18000⟩, ⟨120639600, -21600⟩,
    ⟨126691200, -18000⟩, ⟨152089200, -21600⟩, ⟨162374400, -18000⟩, ⟨183538800, -21600⟩,
    ⟨199267200, -18000⟩, ⟨215593200, -21600⟩, ⟨230716800, -18000⟩, ⟨247042800, -21600⟩,
    ⟨262771200, -18000⟩, ⟨278492400, -21600⟩, ⟨294220800, -18000⟩, ⟨309942000, -21600⟩,
    ⟨325670400, -18000⟩, ⟨341391600, -21600⟩, ⟨357120000, -18000⟩, ⟨372841200, -21600⟩,
    ⟨388569600, -18000⟩, ⟨404895600, -21600⟩, ⟨420019200, -18000⟩, ⟨436345200, -21600⟩,
    ⟨452073600, -18000⟩, ⟨467794800, -21600⟩, ⟨483523200, -18000⟩, ⟨499244400, -21600⟩,
    ⟨514972800, -18000⟩, ⟨530694000, -21600⟩, ⟨544608000, -18000⟩, ⟨562143600, -21600⟩,
    ⟨576057600, -18000⟩, ⟨594198000, -21600⟩, ⟨607507200, -18000⟩, ⟨625647600, -21600⟩,
    ⟨638956800, -18000⟩, ⟨657097200, -21600⟩, ⟨671011200, -18000⟩, ⟨1162105200, -21600⟩] ++ yearly 2007 [⟨3, 2, 6, 7200, -21600, -18000⟩, ⟨11, 1, 6, 7200, -18000, -21600⟩]⟩

def buenosAires : Zone :=
  ⟨"America/Argentina/Buenos_Aires", -10800, [
    ⟨-54766800, -14400⟩, ⟨-39038400, -10800⟩, ⟨-23317200, -14400⟩, ⟨-7588800, -10800⟩,
    ⟨128142000, -7200⟩, ⟨136605600, -10800⟩, ⟨596948400, -7200⟩, ⟨605066400, -10800⟩,
    ⟨624423600, -7200⟩, ⟨636516000, -10800⟩, ⟨656478000, -7200⟩, ⟨667965600, -10800⟩,
    ⟨687927600, -7200⟩, ⟨699415200, -10800⟩, ⟨719377200, -7200⟩, ⟨731469600, -10800⟩,
    ⟨1198983600, -7200⟩, ⟨1205632800, -10800⟩, ⟨1224385200, -7200⟩, ⟨1237082400, -10800⟩]⟩

def berlin : Zone :=
  ⟨"Europe/Berlin", 3600, [
    ⟨323830800, 7200⟩, ⟨338950800, 3600⟩, ⟨354675600, 7200⟩, ⟨370400400, 3600⟩, ⟨386125200, 7200⟩,
    ⟨401850000, 3600⟩, ⟨417574800, 7200⟩, ⟨433299600, 3600⟩, ⟨449024400, 7200⟩, ⟨465354000, 3600⟩,
    ⟨481078800, 7200⟩, ⟨496803600, 3600⟩, ⟨512528400, 7200⟩, ⟨528253200, 3600⟩, ⟨543978000, 7200⟩,
    ⟨559702800, 3600⟩, ⟨575427600, 7200⟩, ⟨591152400, 3600⟩, ⟨606877200, 7200⟩, ⟨622602000, 3600⟩,
    ⟨638326800, 7200⟩, ⟨654656400, 3600⟩, ⟨670381200, 7200⟩, ⟨686106000, 3600⟩, ⟨701830800, 7200⟩,
    ⟨717555600, 3600⟩, ⟨733280400, 7200⟩, ⟨749005200, 3600⟩, ⟨764730000, 7200⟩, ⟨780454800, 3600⟩,
    ⟨796179600, 7200⟩, ⟨811904400, 3600⟩] ++ yearly 1996 [⟨3, 5, 6, 7200, 3600, 7200⟩, ⟨10, 5, 6, 10800, 7200, 3600⟩]⟩

def london : Zone :=
  ⟨"Europe/London", 0, [
    ⟨-59004000, 3600⟩, ⟨57722400, 0⟩, ⟨69818400, 3600⟩, ⟨89172000, 0⟩, ⟨101268000, 3600⟩,
    ⟨120621600, 0⟩, ⟨132717600, 3600⟩, ⟨152071200, 0⟩, ⟨164167200, 3600⟩, ⟨183520800, 0⟩,
    ⟨196221600, 3600⟩, ⟨214970400, 0⟩, ⟨227671200, 3600⟩, ⟨246420000, 0⟩, ⟨259120800, 3600⟩,
    ⟨278474400, 0⟩, ⟨290570400, 3600⟩, ⟨309924000, 0⟩, ⟨322020000, 3600⟩, ⟨341373600, 0⟩,
    ⟨354675600, 3600⟩, ⟨372819600, 0⟩, ⟨386125200, 3600⟩, ⟨404269200, 0⟩, ⟨417574800, 3600⟩,
    ⟨435718800, 0⟩, ⟨449024400, 3600⟩, ⟨467773200, 0⟩, ⟨481078800, 3600⟩, ⟨499222800, 0⟩,
    ⟨512528400, 3600⟩, ⟨530672400, 0⟩, ⟨543978000, 3600⟩, ⟨562122000, 0⟩, ⟨575427600, 3600⟩,
    ⟨593571600, 0⟩, ⟨606877200, 3600⟩, ⟨625626000, 0⟩, ⟨638326800, 3600⟩, ⟨657075600, 0⟩,
    ⟨670381200, 3600⟩, ⟨688525200, 0⟩, ⟨701830800, 3600⟩, ⟨719974800, 0⟩, ⟨733280400, 3600⟩,
    ⟨751424400, 0⟩, ⟨764730000, 3600⟩, ⟨782874000, 0⟩, ⟨796179600, 3600⟩, ⟨814323600, 0⟩] ++ yearly 1996 [⟨3, 5, 6, 3600, 0, 3600⟩, ⟨10, 5, 6, 7200, 3600, 0⟩]⟩

def kyiv : Zone :=
  ⟨"Europe/Kyiv", 10800, [
    ⟨354920400, 14400⟩, ⟨370728000, 10800⟩, ⟨386456400, 14400⟩, ⟨402264000, 10800⟩,
    ⟨417992400, 14400⟩, ⟨433800000, 10800⟩, ⟨449614800, 14400⟩, ⟨465346800, 10800⟩,
    ⟨481071600, 14400⟩, ⟨496796400, 10800⟩, ⟨512521200, 14400⟩, ⟨528246000, 10800⟩,
    ⟨543970800, 14400⟩, ⟨559695600, 10800⟩, ⟨575420400, 14400⟩, ⟨591145200, 10800⟩,
    ⟨606870000, 14400⟩, ⟨622594800, 10800⟩, ⟨638319600, 14400⟩, ⟨646783200, 10800⟩,
    ⟨686102400, 7200⟩, ⟨701827200, 10800⟩, ⟨717552000, 7200⟩, ⟨733276800, 10800⟩,
    ⟨749001600, 7200⟩, ⟨764726400, 10800⟩, ⟨780451200, 7200⟩, ⟨796176000, 10800⟩,
    ⟨811900800, 7200⟩, ⟨828230400, 10800⟩, ⟨846378000, 7200⟩] ++ yearly 1997 [⟨3, 5, 6, 10800, 7200, 10800⟩, ⟨10, 5, 6, 14400, 10800, 7200⟩]⟩

def kolkata : Zone :=
  ⟨"Asia/Kolkata", 19800, []⟩

def tokyo : Zone :=
  ⟨"Asia/Tokyo", 32400, []⟩

def kathmandu : Zone :=
  ⟨"Asia/Kathmandu", 19800, [
    ⟨504901800, 20700⟩]⟩

def beirut : Zone :=
  ⟨"Asia/Beirut", 7200, [
    ⟨78012000, 10800⟩, ⟨86734800, 7200⟩, ⟨105055200, 10800⟩, ⟨118270800, 7200⟩,
    ⟨136591200, 10800⟩, ⟨149806800, 7200⟩, ⟨168127200, 10800⟩, ⟨181342800, 7200⟩,
    ⟨199749600, 10800⟩, ⟨212965200, 7200⟩, ⟨231285600, 10800⟩, ⟨244501200, 7200⟩,
    ⟨262735200, 10800⟩, ⟨275950800, 7200⟩, ⟨452210400, 10800⟩, ⟨466722000, 7200⟩,
    ⟨483746400, 10800⟩, ⟨498258000, 7200⟩, ⟨515282400, 10800⟩, ⟨529794000, 7200⟩,
    ⟨546818400, 10800⟩, ⟨561330000, 7200⟩, ⟨581119200, 10800⟩, ⟨592952400, 7200⟩,
    ⟨610754400, 10800⟩, ⟨624488400, 7200⟩, ⟨641512800, 10800⟩, ⟨656024400, 7200⟩,
    ⟨673048800, 10800⟩, ⟨687560400, 7200⟩, ⟨704671200, 10800⟩, ⟨718146000, 7200⟩,
    ⟨733269600, 10800⟩, ⟨748990800, 7200⟩, ⟨764719200, 10800⟩, ⟨780440400, 7200⟩,
    ⟨796168800, 10800⟩, ⟨811890000, 7200⟩, ⟨828223200, 10800⟩, ⟨843944400, 7200⟩,
    ⟨859672800, 10800⟩, ⟨875394000, 7200⟩, ⟨891122400, 10800⟩, ⟨906843600, 7200⟩] ++ yearly 1999 [⟨3, 5, 6, 0, 7200, 10800⟩, ⟨10, 5, 6, 0, 10800, 7200⟩]⟩

def lordHowe : Zone :=
  ⟨"Australia/Lord_Howe", 36000, [
    ⟨352216800, 37800⟩, ⟨372785400, 41400⟩, ⟨384273000, 37800⟩, ⟨404839800, 41400⟩,
    ⟨415722600, 37800⟩, ⟨436289400, 41400⟩, ⟨447172200, 37800⟩, ⟨467739000, 41400⟩,
    ⟨478621800, 37800⟩, ⟨499188600, 39600⟩, ⟨511282800, 37800⟩, ⟨530033400, 39600⟩,
    ⟨542732400, 37800⟩, ⟨562087800, 39600⟩, ⟨574786800, 37800⟩, ⟨594142200, 39600⟩,
    ⟨606236400, 37800⟩, ⟨625591800, 39600⟩, ⟨636476400, 37800⟩, ⟨657041400, 39600⟩,
    ⟨667926000, 37800⟩, ⟨688491000, 39600⟩, ⟨699375600, 37800⟩, ⟨719940600, 39600⟩,
    ⟨731430000, 37800⟩, ⟨751995000, 39600⟩, ⟨762879600, 37800⟩, ⟨783444600, 39600⟩,
    ⟨794329200, 37800⟩, ⟨814894200, 39600⟩, ⟨828198000, 37800⟩, ⟨846343800, 39600⟩,
    ⟨859647600, 37800⟩, ⟨877793400, 39600⟩, ⟨891097200, 37800⟩, ⟨909243000, 39600⟩,
    ⟨922546800, 37800⟩, ⟨941297400, 39600⟩, ⟨953996400, 37800⟩, ⟨967303800, 39600⟩,
    ⟨985446000, 37800⟩, ⟨1004196600, 39600⟩, ⟨1017500400, 37800⟩, ⟨1035646200, 39600⟩,
    ⟨1048950000, 37800⟩, ⟨1067095800, 39600⟩, ⟨1080399600, 37800⟩, ⟨1099150200, 39600⟩,
    ⟨1111849200, 37800⟩, ⟨1130599800, 39600⟩, ⟨1143903600, 37800⟩, ⟨1162049400, 39600⟩,
    ⟨1174748400, 37800⟩, ⟨1193499000, 39600⟩] ++ yearly 2008 [⟨4, 1, 6, 7200, 39600, 37800⟩, ⟨10, 1, 6, 7200, 37800, 39600⟩]⟩

def sydney : Zone :=
  ⟨"Australia/Sydney", 36000, [
    ⟨57686400, 39600⟩, ⟨67968000, 36000⟩, ⟨89136000, 39600⟩, ⟨100022400, 36000⟩,
    ⟨120585600, 39600⟩, ⟨131472000, 36000⟩, ⟨152035200, 39600⟩, ⟨162921600, 36000⟩,
    ⟨183484800, 39600⟩, ⟨194976000, 36000⟩, ⟨215539200, 39600⟩, ⟨226425600, 36000⟩,
    ⟨246988800, 39600⟩, ⟨257875200, 36000⟩, ⟨278438400, 39600⟩, ⟨289324800, 36000⟩,
    ⟨309888000, 39600⟩, ⟨320774400, 36000⟩, ⟨341337600, 39600⟩, ⟨352224000, 36000⟩,
    ⟨372787200, 39600⟩, ⟨386697600, 36000⟩, ⟨404841600, 39600⟩, ⟨415728000, 36000⟩,
    ⟨436291200, 39600⟩, ⟨447177600, 36000⟩, ⟨467740800, 39600⟩, ⟨478627200, 36000⟩,
    ⟨499190400, 39600⟩, ⟨511286400, 36000⟩, ⟨530035200, 39600⟩, ⟨542736000, 36000⟩,
    ⟨562089600, 39600⟩, ⟨574790400, 36000⟩, ⟨594144000, 39600⟩, ⟨606240000, 36000⟩,
    ⟨625593600, 39600⟩, ⟨636480000, 36000⟩, ⟨657043200, 39600⟩, ⟨667929600, 36000⟩,
    ⟨688492800, 39600⟩, ⟨699379200, 36000⟩, ⟨719942400, 39600⟩, ⟨731433600, 36000⟩,
    ⟨751996800, 39600⟩, ⟨762883200, 36000⟩, ⟨783446400, 39600⟩, ⟨794332800, 36000⟩,
    ⟨814896000, 39600⟩, ⟨828201600, 36000⟩, ⟨846345600, 39600⟩, ⟨859651200, 36000⟩,
    ⟨877795200, 39600⟩, ⟨891100800, 36000⟩, ⟨909244800, 39600⟩, ⟨922550400, 36000⟩,
    ⟨941299200, 39600⟩, ⟨954000000, 36000⟩, ⟨967305600, 39600⟩, ⟨985449600, 36000⟩,
    ⟨1004198400, 39600⟩, ⟨1017504000, 36000⟩, ⟨1035648000, 39600⟩, ⟨1048953600, 36000⟩,
    ⟨1067097600, 39600⟩, ⟨1080403200, 36000⟩, ⟨1099152000, 39600⟩, ⟨1111852800, 36000⟩,
    ⟨1130601600, 39600⟩, ⟨1143907200, 36000⟩, ⟨1162051200, 39600⟩, ⟨1174752000, 36000⟩,
    ⟨1193500800, 39600⟩] ++ yearly 2008 [⟨4, 1, 6, 10800, 39600, 36000⟩, ⟨10, 1, 6, 7200, 36000, 39600⟩]⟩

def apia : Zone :=
  ⟨"Pacific/Apia", -39600, [
    ⟨1285498800, -36000⟩, ⟨1301752800, -39600⟩, ⟨1316872800, -36000⟩, ⟨1325239200, 50400⟩,
    ⟨1333202400, 46800⟩, ⟨1348927200, 50400⟩, ⟨1365256800, 46800⟩, ⟨1380376800, 50400⟩,
    ⟨1396706400, 46800⟩, ⟨1411826400, 50400⟩, ⟨1428156000, 46800⟩, ⟨1443276000, 50400⟩,
    ⟨1459605600, 46800⟩, ⟨1474725600, 50400⟩, ⟨1491055200, 46800⟩, ⟨1506175200, 50400⟩,
    ⟨1522504800, 46800⟩, ⟨1538229600, 50400⟩, ⟨1554559200, 46800⟩, ⟨1569679200, 50400⟩,
    ⟨1586008800, 46800⟩, ⟨1601128800, 50400⟩, ⟨1617458400, 46800⟩]⟩

/-- A zone without changes. -/
def constant (name : String) (offset : Int) : Zone :=
  ⟨name, offset, []⟩

/-- A zone under another of its names. -/
def named (name : String) (z : Zone) : Zone :=
  { z with name }

/-- The names of universal time, each of them also under `Etc/`. -/
def universal : List Zone :=
  ["GMT", "GMT0", "GMT+0", "GMT-0", "Greenwich", "UCT", "UTC", "Universal", "Zulu"].flatMap fun name =>
    [constant name 0, constant ("Etc/" ++ name) 0]

/-- Zones a number of whole hours away from universal time. Their sign is that of the way there: west
is positive. -/
def hoursFromUniversal : List Zone :=
  ((List.range 12).map fun k : Nat => constant ("Etc/GMT+" ++ toString (k + 1)) (-3600 * (k + 1 : Int))) ++
  ((List.range 14).map fun k : Nat => constant ("Etc/GMT-" ++ toString (k + 1)) (3600 * (k + 1 : Int)))

/-- The excerpt from the time zone database. -/
def all : List Zone := [
  losAngeles, newYork, saoPaulo, havana, stJohns, knox, buenosAires, berlin, london, kyiv, kolkata,
  tokyo, kathmandu, beirut, lordHowe, sydney, apia,
  named "America/Buenos_Aires" buenosAires, named "Europe/Kiev" kyiv,
  named "Asia/Calcutta" kolkata, named "US/Pacific" losAngeles, named "US/Eastern" newYork,
  named "EST5EDT" newYork, named "PST8PDT" losAngeles, named "America/Knox_IN" knox,
  named "US/Indiana-Starke" knox, named "Brazil/East" saoPaulo, named "Cuba" havana,
  named "Canada/Newfoundland" stJohns, named "GB" london, named "GB-Eire" london,
  named "Japan" tokyo, named "Asia/Katmandu" kathmandu, named "Australia/LHI" lordHowe,
  named "Australia/ACT" sydney, named "Australia/Canberra" sydney, named "Australia/NSW" sydney,
  constant "EST" (-18000), constant "MST" (-25200), constant "HST" (-36000)
] ++ universal ++ hoursFromUniversal

/-- The zone of a name, if the excerpt has it; letter case counts. -/
def find? (name : String) : Option Zone :=
  all.find? (·.name == name)

end Transit.Zone
