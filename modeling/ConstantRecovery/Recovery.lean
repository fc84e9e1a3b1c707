import ConstantRecovery.Getter.Probe
import ConstantRecovery.Patch.Patcher

/-!
# Recovery

A protection is a getter, the methods that call it and its blob. Recovering it
means to read the getter and to patch the methods. Several protections are
recovered independently of each other; only decoded texts are shared among them.
-/

namespace ConstantRecovery

/-- How to recover. -/
structure Settings where
  /-- The limits of each probe. -/
  limits : Limits
  /-- Methods may be patched side by side. The outcome is the same. -/
  parallel : Bool
  /-- Equal decoded texts share one allocation. -/
  internTexts : Bool
deriving DecidableEq

namespace Settings

/-- What holds unless something else is asked for. -/
def standard : Settings := { limits := .standard, parallel := false, internTexts := true }

end Settings

/-- A getter, the methods that call it and its constants. -/
structure Protection where
  /-- The getter. -/
  getter : Method
  /-- The methods that call it. -/
  consumers : List Method
  /-- The constants. -/
  blob : Blob
deriving DecidableEq

/-- The numbers of the methods that call an instantiation of a getter. -/
def findConsumers (methods : List Method) (getter : Token) (resolver : Resolver) : List Nat :=
  (methods.zipIdx.filter fun (method, _) =>
    method.body.any (·.isGetterCall getter resolver)).map (·.2)

/-- A way to recover constants. -/
structure Recoverer where
  /-- What is known about tokens. -/
  resolver : Resolver
  /-- How to recover. -/
  settings : Settings
  /-- What undoes the control-flow protection of methods, if anything does. -/
  cleaner? : Option Cleaner

namespace Recoverer

/-- The patcher of a protection, if its getter can be read. -/
def patcherFor (recoverer : Recoverer) (protection : Protection) : Except Error Patcher := do
  let reader : GetterReader :=
    { resolver := recoverer.resolver, limits := recoverer.settings.limits }
  let (mapping, keys) ← reader.resolve protection.getter
  return {
    getter := protection.getter.token
    mapping, keys
    blob := protection.blob
    resolver := recoverer.resolver
    cleaner? := recoverer.cleaner? }

/-- Recovers one protection. When its getter cannot be read, its methods stay as they are. -/
def recover (recoverer : Recoverer) (protection : Protection) :
    StateM Interner (Except Error PatchReport × Protection) := fun interner =>
  match recoverer.patcherFor protection with
  | .error error => ((.error error, protection), interner)
  | .ok patcher =>
    let sharing := if recoverer.settings.internTexts then some interner else none
    let ((report, consumers), sharing) := (patcher.patchAll protection.consumers).run sharing
    ((.ok report, { protection with consumers }), sharing.getD interner)

/-- Recovers several protections, each on its own. -/
def recoverAll (recoverer : Recoverer) (protections : List Protection) :
    StateM Interner (List (Except Error PatchReport × Protection)) :=
  protections.mapM recoverer.recover

end Recoverer

end ConstantRecovery
