import Metaobject.Log.Filter

/-!
# Setting up the log

The log of a process is set up once, by settings that say what passes and how it is written. The
event that reports the setup is the first to be written, if it passes.
-/

namespace Metaobject

/-- How the log is written. -/
structure LogSettings where
  level : Level
  /-- Filter directives, which take the place of the level. -/
  filter : Option String
  showTarget : Bool
  showThreadIds : Bool
  showFile : Bool
  showLine : Bool
  json : Bool
deriving DecidableEq

namespace LogSettings

def standard : LogSettings := ⟨.info, none, true, false, false, false, false⟩

/-- More detail, for development. -/
def development : LogSettings := ⟨.debug, none, true, true, true, true, false⟩

def production : LogSettings := ⟨.info, none, false, false, false, false, true⟩

def filterOf (s : LogSettings) : Except Failure Filter :=
  match s.filter with
  | none => .ok (.ofLevel s.level)
  | some text => match Filter.parse text with
    | .ok f => .ok f
    | .error e => .error (.bootstrapFailed (.filter text e))

def setupTarget : String := "reflect_impl::logging"

def setupEvent : Event := ⟨.info, "日志系统初始化完成"⟩

end LogSettings

/-- The log of a process: the settings and the filter, once it is set up. -/
abbrev LogState := Option (LogSettings × Filter)

namespace LogState

def setUp (state : LogState) (s : LogSettings) : Except Failure LogState :=
  match s.filterOf with
  | .error e => .error e
  | .ok f => match state with
    | some _ => .error (.bootstrapFailed .loggerAlreadySet)
    | none => .ok (some (s, f))

/-- Whether the event that reports the setup is written. -/
def reportsSetup : LogState → Bool
  | none => false
  | some (_, f) => f.passes LogSettings.setupTarget LogSettings.setupEvent.level

/-- Sets up the log with each of the settings in turn, as far as that is possible. -/
def setUpEach : LogState → List LogSettings → List (Except Failure Unit) × LogState
  | state, [] => ([], state)
  | state, s :: ss =>
      match state.setUp s with
      | .ok next =>
          let (results, last) := setUpEach next ss
          (.ok () :: results, last)
      | .error e =>
          let (results, last) := setUpEach state ss
          (.error e :: results, last)

end LogState

end Metaobject
