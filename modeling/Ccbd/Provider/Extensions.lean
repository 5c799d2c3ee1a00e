import Mathlib.Data.Finmap
import Ccbd.Lib.Json
import Ccbd.Lib.Table

/-!
# Extensions of an agent

What a project declares for an agent: hooks, plugins, skills, bundles and settings. The
maps of the source are tables, whose row order carries no meaning, and finite maps where they are
compared.
-/

namespace Ccbd

open Lib

structure HookItem where
  hookType : String := "command"
  command : String
  timeout : Option Nat := none
deriving DecidableEq, Repr

structure HookGroup where
  matcher : String := "*"
  hooks : List HookItem
deriving DecidableEq, Repr

inductive McpTransport where
  | stdio
  | http
  | sse
deriving DecidableEq, Repr

structure McpServerConfig where
  name : String
  transport : McpTransport
  command : Option String := none
  args : List String := []
  env : Finmap fun _ : String => String := ∅
  url : Option String := none
  headers : Finmap fun _ : String => String := ∅
  isOptional : Bool := false
deriving DecidableEq

structure ResolvedSkill where
  name : String
  sourceDir : String
deriving DecidableEq, Repr

structure BundleDigestEntry where
  name : String
  digest : String
deriving DecidableEq, Repr

structure BundleDigest where
  bundles : List BundleDigestEntry
deriving DecidableEq, Repr

/-- The hook groups of each event. -/
abbrev Hooks := Table String (List HookGroup)

structure ExtensionConfig where
  hooks : Hooks := .empty
  plugins : List String := []
  skills : List String := []
  bundle : List String := []
  settings : Table String Json := .empty
  rules : List String := []
  mcp : List McpServerConfig := []
  bundleDigest : Option BundleDigest := none
  resolvedSkills : List ResolvedSkill := []

/-- A path of the host and where it appears in the sandbox. -/
structure SandboxBind where
  hostPath : String
  sandboxPath : String
deriving DecidableEq, Repr

structure SandboxOverrides where
  extraRoBinds : List SandboxBind := []
  extraBinds : List SandboxBind := []
deriving DecidableEq, Repr

/-- What a spawn spec and a realign request say about an agent besides its id. -/
structure AgentDeclaration where
  provider : String
  env : Table String String := .empty
  hooks : Hooks := .empty
  plugins : List String := []
  skills : List String := []
  bundle : List String := []
  settings : Table String Json := .empty
  bundleDigest : Option BundleDigest := none
  sandboxOverrides : SandboxOverrides := {}
  hookPushEnabled : Bool := false

end Ccbd
