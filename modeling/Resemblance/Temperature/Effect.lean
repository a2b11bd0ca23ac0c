import Resemblance.Statistics

/-!
The effect of the sampling temperature on consistency, read off their correlation.
-/

namespace Resemblance

/-- The direction in which consistency moves with the temperature. -/
inductive Trend where
  | negative
  | neutral
  | positive
  deriving DecidableEq, Repr

namespace Trend

/-- The correlation up to which there is no trend. -/
def threshold : Float := 0.3

/-- The correlation beyond which a trend is significant. -/
def significance : Float := 0.5

def ofCorrelation (correlation : Float) : Trend :=
  if correlation < -threshold then negative
  else if correlation > threshold then positive
  else neutral

def name : Trend → String
  | negative => "negative"
  | neutral => "neutral"
  | positive => "positive"

end Trend

structure TemperatureEffect where
  correlation : Float

namespace TemperatureEffect

def trend (effect : TemperatureEffect) : Trend :=
  .ofCorrelation effect.correlation

def ofPoints? (temperatures consistency : List Float) : Option TemperatureEffect :=
  if temperatures.length < 2 || temperatures.length != consistency.length then none
  else some ⟨Resemblance.correlation temperatures consistency⟩

def describe (effect : TemperatureEffect) : String :=
  match effect.trend with
  | .neutral => "Temperature has minimal effect on consistency"
  | .negative =>
      let degree :=
        if effect.correlation < -Trend.significance then "significantly" else "moderately"
      s!"Higher temperature {degree} reduces consistency"
  | .positive =>
      let degree :=
        if effect.correlation > Trend.significance then "significantly" else "moderately"
      s!"Higher temperature {degree} increases consistency"

end TemperatureEffect
end Resemblance
