import DocMapper.Decimal.Layout
import DocMapper.Decimal.Reading
import DocMapper.Duration
import DocMapper.Json.Basic
import DocMapper.Text.Pieces
/-!
Points on the globe, distances between them and boxes around them. Distances are measured
along great circles of a sphere.
-/

namespace DocMapper

structure GeoPoint where
  lat : Float
  lon : Float
deriving DecidableEq

inductive DistanceUnit where
  | meters
  | kilometers
  | miles
deriving DecidableEq, Repr

structure Distance where
  value : Float
  unit : DistanceUnit
deriving DecidableEq

/-- A box given by two opposite corners; its edges belong to it. -/
structure GeoBox where
  topLeft : GeoPoint
  bottomRight : GeoPoint
deriving DecidableEq

namespace GeoPoint

def earthRadiusKm : Float := 6371.0088

def radians (degrees : Float) : Float :=
  degrees * (3.14159265358979323846 / 180.0)

def distanceKm (a b : GeoPoint) : Float :=
  let lat1 := radians a.lat
  let lat2 := radians b.lat
  let byLat := ((lat2 - lat1) / 2.0).sin
  let byLon := (radians (b.lon - a.lon) / 2.0).sin
  let chord := byLat * byLat + lat1.cos * lat2.cos * (byLon * byLon)
  2.0 * earthRadiusKm * chord.sqrt.asin

def coordinate? (text : List Char) : Option Float :=
  Decimal.parse? (String.ofList (Text.trimChars text))

def ofJson? : Json → Option GeoPoint
  -- A point is an object with `lat` and `lon`, a text with both, or a list of two numbers with
  -- the longitude first.
  | .object members => do
      let lat ← (← Dict.find? "lat" members).double?
      let lon ← (← Dict.find? "lon" members).double?
      return ⟨lat, lon⟩
  | .string text => do
      let (lat, lon) ← Text.cutAt? ',' text.toList
      return ⟨← coordinate? lat, ← coordinate? lon⟩
  | .array [lon, lat] => do
      return ⟨← lat.double?, ← lon.double?⟩
  | _ => none

def toJson (p : GeoPoint) : Json :=
  .object [("lat", .ofDouble p.lat), ("lon", .ofDouble p.lon)]

def format (p : GeoPoint) : String :=
  s!"({Layout.double p.lat}, {Layout.double p.lon})"

end GeoPoint

namespace DistanceUnit

def suffix : DistanceUnit → String
  | .meters => "m"
  | .kilometers => "km"
  | .miles => "mi"

def toKm (unit : DistanceUnit) (value : Float) : Float :=
  match unit with
  | .meters => value / 1000.0
  | .kilometers => value
  | .miles => value * 1.609344

def ofName? (name : String) : Option DistanceUnit :=
  if name = "m" || name = "meters" then some .meters
  else if name = "km" || name = "kilometers" then some .kilometers
  else if name = "mi" || name = "miles" then some .miles
  else none

end DistanceUnit

/-- Why a text is no distance. -/
inductive DistanceError where
  | noUnit (raw : String)
  | noNumber (raw : String)
  | unknownUnit (unit : String)
deriving DecidableEq, Repr

def DistanceError.message : DistanceError → String
  | .noUnit raw => s!"'{raw}' has no distance unit"
  | .noNumber raw => s!"'{raw}' does not start with a number"
  | .unknownUnit unit => s!"'{unit}' is not a distance unit"

namespace Distance

def km (value : Float) : Distance := ⟨value, .kilometers⟩

def inKm (d : Distance) : Float :=
  d.unit.toKm d.value

def format (d : Distance) : String :=
  Layout.double d.value ++ d.unit.suffix

def parse (raw : String) : Except DistanceError Distance :=
  -- The unit starts at the first letter.
  let text := canonicalChars raw
  let number := text.takeWhile fun c => !c.isAlpha
  let unit := String.ofList (text.dropWhile fun c => !c.isAlpha)
  if unit.isEmpty then .error (.noUnit raw)
  else match GeoPoint.coordinate? number with
    | none => .error (.noNumber raw)
    | some value =>
        match DistanceUnit.ofName? unit with
        | some unit => .ok ⟨value, unit⟩
        | none => .error (.unknownUnit unit)

end Distance

def GeoBox.contains (box : GeoBox) (p : GeoPoint) : Bool :=
  p.lat ≤ box.topLeft.lat && box.bottomRight.lat ≤ p.lat &&
    box.topLeft.lon ≤ p.lon && p.lon ≤ box.bottomRight.lon

end DocMapper
