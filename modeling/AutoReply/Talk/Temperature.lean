import AutoReply.Number.Text

/-!
Conversions between degrees Celsius and degrees Fahrenheit.
-/

namespace AutoReply.Talk

open AutoReply.Number

inductive Conversion
  | celsiusToFahrenheit
  | fahrenheitToCelsius
  deriving DecidableEq

/-- There is no conversion with the name. -/
structure UnknownConversion where
  name : String
  deriving DecidableEq

def UnknownConversion.message (unknown : UnknownConversion) : String :=
  "Unknown conversion \"" ++ unknown.name ++ "\", expected \"ctof\" or \"ftoc\""

namespace Conversion

def ofName (name : String) : Except UnknownConversion Conversion :=
  if name = "ctof" then .ok celsiusToFahrenheit
  else if name = "ftoc" then .ok fahrenheitToCelsius
  else .error ⟨name⟩

def apply : Conversion → Binary64 → Binary64
  | celsiusToFahrenheit, degrees =>
      ((degrees.multiply (.ofNat 9)).divide (.ofNat 5)).add (.ofNat 32)
  | fahrenheitToCelsius, degrees =>
      ((degrees.subtract (.ofNat 32)).multiply (.ofNat 5)).divide (.ofNat 9)

end Conversion

def roundToHundredths (number : Binary64) : Binary64 :=
  ((number.multiply (.ofNat 100)).round).divide (.ofNat 100)

def degreesText (degrees : Binary64) : List Char :=
  let degrees := degrees.add (.ofNat 0)
  if degrees.isWhole then degrees.fixed 0 else degrees.shown

def Conversion.describe (conversion : Conversion) (degrees : Binary64) : String :=
  let (source, target) := match conversion with
    | celsiusToFahrenheit => ("C", "F")
    | fahrenheitToCelsius => ("F", "C")
  String.ofList (degreesText degrees) ++ "°" ++ source ++ " is " ++
    String.ofList (degreesText (roundToHundredths (conversion.apply degrees))) ++ "°" ++ target

end AutoReply.Talk
