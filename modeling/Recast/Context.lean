import Recast.Cache
import Recast.HostType

/-!
# Context — casting over a finished registry

A `Context` is a registry to which nothing is added any more, together with its caches.  Each
operation answers together with the context after it, in which more may be kept; what is kept never
changes an answer.
-/

namespace Recast

structure Context where
  registry : Registry
  cache : CasterCache
  traitTable : TraitTable

/-- A caster bound to a pair of host types. -/
structure BoundCaster (source target : HostType) where
  caster : Caster

def BoundCaster.cast {source target : HostType} (t : BoundCaster source target)
    (v : source.Carrier) : Except CastError target.Carrier :=
  (t.caster.run (source.erase v)).bind target.extract

namespace Context

def ofRegistry (r : Registry) : Context :=
  { registry := r
    cache := CasterCache.empty
    traitTable := Table.empty }

def builtin : Context :=
  ofRegistry Registry.builtin

/-- A context over the same registry that keeps nothing; its casters differ from those issued so
far. -/
def renew (c : Context) : Context :=
  { registry := c.registry
    cache := CasterCache.emptyFrom c.cache.serial
    traitTable := Table.empty }

/-! ## Questions -/

def traits (c : Context) (h : TypeHash) : Traits × Context :=
  let (answer, traitTable) := c.traitTable.traits c.registry h
  (answer, { c with traitTable := traitTable })

/-- Whether absence is among the values of a type.  Its traits are asked for only if the answer is
not kept. -/
def isNullable (c : Context) (h : TypeHash) : Bool × Context :=
  match c.cache.nullability.get? h with
  | some kept => (kept, c)
  | none =>
      let (traits, asked) := c.traits h
      let (answer, cache) := asked.cache.isNullable h fun _ => traits.isNullable
      (answer, { asked with cache := cache })

def conversionBetween (c : Context) (source target : TypeHash) : Conversion :=
  c.registry.conversionBetween source target

def isConvertible (c : Context) (source target : TypeHash) : Bool :=
  c.registry.isConvertible source target

/-! ## Casters -/

/-- The caster for a pair of types, made on first use. -/
def caster (c : Context) (source target : TypeHash) (mode : Mode) :
    Except CastError Caster × Context :=
  let (answer, cache) :=
    c.cache.caster c.registry { source := source, target := target } mode
  (answer, { c with cache := cache })

/-- Give a converter an identity of its own. -/
def issue (c : Context) (run : Converter) : Caster × Context :=
  let (caster, cache) := c.cache.issue run
  (caster, { c with cache := cache })

def bindCaster (c : Context) (source target : HostType) (mode : Mode) :
    Except CastError (BoundCaster source target) × Context :=
  let (answer, next) := c.caster source.typeHash target.typeHash mode
  (answer.map fun caster => { caster := caster }, next)

/-! ## Casts -/

/-- Cast a value between host types.  An optional source goes through the wrapper of its type. -/
def cast (c : Context) (source target : HostType) (v : source.Carrier) (mode : Mode) :
    Except CastError target.Carrier × Context :=
  let (answer, next) := c.caster source.typeHash target.typeHash mode
  (answer.bind fun caster => (caster.run (source.erase v)).bind target.extract, next)

/-- Cast a value by its run-time type.  `null` has none, and is handed on where the target has
absence. -/
def castValue (c : Context) (v : Value) (target : TypeHash) (mode : Mode) :
    Except CastError Value × Context :=
  match v.typeHash? with
  | none =>
      let (nullable, next) := c.isNullable target
      if nullable then
        (.ok .null, next)
      else
        (.error (.nullNotAllowed (c.registry.nameOf target)), next)
  | some source =>
      let (answer, next) := c.caster source target mode
      (answer.bind fun caster => caster.run v, next)

end Context
end Recast
