/-
# Settings as JSON

The keys of settings and of their layers, for reading and for writing.  Complete settings
take numbers where a layer also takes `null`, and a missing key keeps its default in both.
-/
import BotKeeper.Json.Shape
import BotKeeper.Json.Writer
import BotKeeper.Settings.Layer

namespace BotKeeper

open Json

/-! ## Reading complete settings -/

/-- The section on supervision. -/
def SupervisorSettings.shape : Shape SupervisorSettings SupervisorSettings where
  expected := "struct SupervisorSettings"
  keys :=
    [.of "grace_period_secs" Reader.uint64 fun s n => { s with gracePeriodSecs := n },
     .of "force_wait_secs" Reader.uint64 fun s n => { s with forceWaitSecs := n },
     .of "poll_initial_ms" Reader.uint64 fun s n => { s with pollInitialMs := n },
     .of "poll_ceiling_ms" Reader.uint64 fun s n => { s with pollCeilingMs := n },
     .of "reap_pattern" (Reader.optional (Reader.text "a string"))
       fun s p => { s with reapPattern := p }]
  start := {}
  finish := .ok
  tooShort _ := none

/-- The section on npm. -/
def NpmSettings.shape : Shape NpmSettings NpmSettings where
  expected := "struct NpmSettings"
  keys :=
    [.of "binary" (Reader.optional (Reader.text "path string"))
       fun s p => { s with binary := p.map SystemText.text },
     .of "required_packages" (Reader.list (Reader.text "a string"))
       fun s ps => { s with requiredPackages := ps }]
  start := {}
  finish := .ok
  tooShort _ := none

/-- Complete settings. -/
def Settings.shape : Shape Settings Settings where
  expected := "struct Settings"
  keys :=
    [.of "supervisor" (Reader.record SupervisorSettings.shape) fun s v => { s with supervisor := v },
     .of "npm" (Reader.record NpmSettings.shape) fun s v => { s with npm := v }]
  start := {}
  finish := .ok
  tooShort _ := none

/-- Reads complete settings. -/
def Settings.ofJson (text : String) : Except Fault Settings :=
  Reader.run (Reader.record Settings.shape) text

/-! ## Reading a layer -/

/-- What a file says about supervision. -/
def SupervisorLayer.shape : Shape SupervisorLayer SupervisorLayer where
  expected := "struct SupervisorLayer"
  keys :=
    [.of "grace_period_secs" (Reader.optional Reader.uint64)
       fun s n => { s with gracePeriodSecs := n },
     .of "force_wait_secs" (Reader.optional Reader.uint64) fun s n => { s with forceWaitSecs := n },
     .of "poll_initial_ms" (Reader.optional Reader.uint64) fun s n => { s with pollInitialMs := n },
     .of "poll_ceiling_ms" (Reader.optional Reader.uint64) fun s n => { s with pollCeilingMs := n },
     .of "reap_pattern" (Reader.optional (Reader.text "a string"))
       fun s p => { s with reapPattern := p }]
  start := {}
  finish := .ok
  tooShort _ := none

/-- What a file says about npm. -/
def NpmLayer.shape : Shape NpmLayer NpmLayer where
  expected := "struct NpmLayer"
  keys :=
    [.of "binary" (Reader.optional (Reader.text "path string"))
       fun s p => { s with binary := p.map SystemText.text },
     .of "required_packages" (Reader.optional (Reader.list (Reader.text "a string")))
       fun s ps => { s with requiredPackages := ps }]
  start := {}
  finish := .ok
  tooShort _ := none

/-- What a file says. -/
def SettingsLayer.shape : Shape SettingsLayer SettingsLayer where
  expected := "struct SettingsLayer"
  keys :=
    [.of "supervisor" (Reader.record SupervisorLayer.shape) fun s v => { s with supervisor := v },
     .of "npm" (Reader.record NpmLayer.shape) fun s v => { s with npm := v }]
  start := {}
  finish := .ok
  tooShort _ := none

/-- Reads the layer of a settings file. -/
def SettingsLayer.ofJson (text : String) : Except Fault SettingsLayer :=
  Reader.run (Reader.record SettingsLayer.shape) text

/-! ## Writing -/

/-- A text or `null`. -/
def textOrNull : Option String → Json.Value
  | some s => .string s
  | none => .null

/-- Settings as JSON, every key written. -/
def Settings.toJson (s : Settings) : Json.Value :=
  .object
    [("supervisor", .object
        [("grace_period_secs", .number s.supervisor.gracePeriodSecs.toNat),
         ("force_wait_secs", .number s.supervisor.forceWaitSecs.toNat),
         ("poll_initial_ms", .number s.supervisor.pollInitialMs.toNat),
         ("poll_ceiling_ms", .number s.supervisor.pollCeilingMs.toNat),
         ("reap_pattern", textOrNull s.supervisor.reapPattern)]),
     ("npm", .object
        [("binary", textOrNull (s.npm.binary.map SystemText.display)),
         ("required_packages", .list (s.npm.requiredPackages.map Json.Value.string))])]

end BotKeeper
