import AspectWeaving.Environment

/-! What a weaver can be told when it is made. -/

namespace AspectWeaving

/-- Whether advices run at all, whether aspect ids may be reused, and whether plans are kept. -/
structure Config where
  enabled : Bool
  strictAspectIds : Bool
  planCache : Bool
deriving DecidableEq, Repr

namespace Config

/-- Advices run, an aspect id may be reused, plans are kept. -/
def standard : Config := ⟨true, false, true⟩

instance : Inhabited Config := ⟨standard⟩

/-- Reads a configuration; the first value of no use is reported. -/
def ofEnvironment (environment : Environment) : Except EnvironmentError Config := do
  let enabled ← environment.enabled "ASPECT_WEAVER_ENABLED" standard.enabled
  let strictAspectIds ← environment.enabled "ASPECT_STRICT_ASPECT_IDS" standard.strictAspectIds
  let planCache ← environment.enabled "ASPECT_PLAN_CACHE" standard.planCache
  return { enabled, strictAspectIds, planCache }

end Config

end AspectWeaving
