import EngineBridge.Session.Target

/-!
Caches of resolved callables.

A callable is looked up at most once for each key as long as its cache is not cleared. A lookup
that fails is not remembered.
-/

namespace EngineBridge

namespace BindingCache

def find? (cache : BindingCache) (key : TargetKey) : Option Callable :=
  cache.lookup key

def contains (cache : BindingCache) (key : TargetKey) : Bool :=
  (cache.find? key).isSome

/-- Whether the callable of a target is remembered, where the target is given by its parts. -/
def containsParts (cache : BindingCache) (parts : List Document) : Except Failure Bool := do
  let _ ← parts.mapM Document.keyOf
  match CallTarget.ofParts? parts with
  | some target => return cache.contains (← target.key)
  | none => return false

def remember (cache : BindingCache) (key : TargetKey) (callable : Callable) : BindingCache :=
  cache ++ [(key, callable)]

end BindingCache

namespace Session

def cache (session : Session) : CacheReference → BindingCache
  | .shared => session.sharedCache
  | .own index => (session.ownCaches[index]?).getD []

def withCache (session : Session) (reference : CacheReference) (content : BindingCache) : Session :=
  match reference with
  | .shared => { session with sharedCache := content }
  | .own index => { session with ownCaches := session.ownCaches.set index content }

end Session

namespace Bridge

def newCache : Bridge CacheReference := do
  let session ← get
  set { session with ownCaches := session.ownCaches ++ [([] : BindingCache)] }
  return .own session.ownCaches.length

def clearCache (reference : CacheReference) : Bridge Unit :=
  modify fun session => session.withCache reference []

def resolvedRecord (target : CallTarget) : Log.Record :=
  Log.Record.plain Log.Level.debug "gdmarshal.dispatcher.binding_cache" "binding_cache"
    ("Resolved " ++ target.wording)

/-- The callable of a target, from the cache if it is there. -/
def resolve (reference : CacheReference) (target : CallTarget) : Bridge Callable := do
  let key ← target.key
  match ((← get).cache reference).find? key with
  | some callable => return callable
  | none => do
      let callable ← target.resolve
      modify fun session =>
        session.withCache reference ((session.cache reference).remember key callable)
      emit (resolvedRecord target)
      return callable

end Bridge

end EngineBridge
