import SharedPort.Forward.Options
import SharedPort.Log
import SharedPort.Selector.Bind
import SharedPort.Selector.Step

/-! A gateway: a selector with one listener per route of a configuration, each paired with the target of its route. -/
namespace SharedPort
open Log (Entry Logged)

structure Gateway.Route where
  listener : Nat
  target : String
  deriving DecidableEq, Repr

structure Gateway where
  selector : Selector.State
  routes : List Gateway.Route
  options : Forward.Options

namespace Gateway

def registered (s : Selector.State) (listener : Nat) (text : String) : List Entry :=
  let display := ((s.listeners[listener]?).map Listener.display).getD ""
  [⟨.info, .selector, s!"Registered listener {display}"⟩, ⟨.info, .gateway, text⟩]

def addRoutes (g : Gateway) : List RouteConfig → Logged (Except Error Gateway)
  | [] => ⟨.ok g, []⟩
  | r :: rest =>
      match g.selector.register (Utf8.encode r.key) with
      | (.error e, _) => ⟨.error e, []⟩
      | (.ok listener, selector) =>
          let entries := registered selector listener s!"Route {Quoted.text r.key} -> {r.target}"
          let next := addRoutes { g with selector, routes := g.routes ++ [⟨listener, r.target⟩] } rest
          { next with log := entries ++ next.log }

def addDefault (g : Gateway) (target : Option String) : Logged (Except Error Gateway) :=
  match target with
  | none => ⟨.ok g, []⟩
  | some target =>
      match g.selector.registerDefault with
      | (.error e, _) => ⟨.error e, []⟩
      | (.ok listener, selector) =>
          ⟨.ok { g with selector, routes := g.routes ++ [⟨listener, target⟩] },
            registered selector listener s!"Default route -> {target}"⟩

def bound (lookup : Resolver) (c : Config) : Except Error Gateway := do
  let setup ← Selector.bindConfig lookup c
  let selector ← Selector.State.create setup
  return ⟨selector, [], .ofConfig c⟩

def createdText (setup : Selector.Setup) : String :=
  s!"Selector created on {setup.address.render} (header size {setup.headerSize}, match mode {setup.rule.name})"

/-- The gateway of a configuration. Its socket is taken to be bound to the configured address. -/
def ofConfig (lookup : Resolver) (c : Config) : Logged (Except Error Gateway) :=
  match bound lookup c with
  | .error e => ⟨.error e, []⟩
  | .ok g =>
      let created : Entry := ⟨.debug, .selector, createdText g.selector.setup⟩
      let routed := g.addRoutes c.routes
      match routed.value with
      | .error e => ⟨.error e, created :: routed.log⟩
      | .ok g =>
          let complete := g.addDefault c.defaultTarget
          { complete with log := created :: routed.log ++ complete.log }

def debug (g : Gateway) (address : String) : String :=
  let selector := g.selector.setup.debug address g.selector.closed
  s!"Gateway \x7b selector: {selector}, routes: {g.routes.length}, options: {g.options.debug} \x7d"

def serving (g : Gateway) : List Entry :=
  let address := g.selector.setup.address.render
  [⟨.info, .gateway, s!"Gateway listening on {address} with {g.routes.length} route(s)"⟩,
    ⟨.info, .selector, s!"Selector serving on {address}"⟩]

end Gateway
end SharedPort
