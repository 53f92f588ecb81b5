import TextIndex.Engine.Basic

/-!
# Sites

A site runs several engines under names of their own, some of which share worker pools. Closing a
shared pool concerns every engine that analyzes with it; closing an engine leaves a shared pool
alone.

* `Site.openPool`, `Site.closePool`: shared pools.
* `Site.openEngine`, `Site.dropEngine`: engines.
-/

namespace TextIndex

/-- An engine and the number of the shared pool that it analyzes with, if it does. -/
structure Tenant where
  engine : Engine
  pool : Option Nat

/-- Engines and shared pools. -/
structure Site where
  engines : Std.ExtTreeMap String Tenant := ∅
  /-- All shared pools, in the order in which they were opened. -/
  pools : Array WorkerPool := #[]
  /-- The number of the pool that a name stands for. -/
  poolNumbers : Std.ExtTreeMap String Nat := ∅

namespace Site

/-- The shared pool of the given name, with its number. -/
def pool? (site : Site) (name : String) : Option (Nat × WorkerPool) :=
  site.poolNumbers[name]?.bind fun number =>
    site.pools[number]?.map fun pool => (number, pool)

def openPool (site : Site) (name : String) (workers capacity : Nat) :
    Except IndexError Site :=
  (WorkerPool.start workers capacity).map fun pool =>
    { site with
      pools := site.pools.push pool
      poolNumbers := site.poolNumbers.insert name site.pools.size }

def closePool (site : Site) (name : String) : Site :=
  match site.pool? name with
  | none => site
  | some (number, pool) =>
    { site with
      pools := site.pools.setIfInBounds number pool.close
      engines := site.engines.map fun _ tenant =>
        if tenant.pool = some number then { tenant with engine := tenant.engine.withPoolClosed }
        else tenant }

/-- Open an engine, with the shared pool of the given name or one of its own. -/
def openEngine (site : Site) (name : String) (config : Config) (pool : Option (Nat × WorkerPool)) :
    Except IndexError Site :=
  let opened := match pool with
    | some (_, pool) => Engine.openShared config pool
    | none => Engine.openOwn config
  opened.map fun engine =>
    { site with engines := site.engines.insert name ⟨engine, pool.map (·.1)⟩ }

def engine? (site : Site) (name : String) : Option Engine :=
  site.engines[name]?.map (·.engine)

/-- The site with an engine as an operation leaves it. -/
def withEngine (site : Site) (name : String) (engine : Engine) : Site :=
  { site with engines := site.engines.modify name fun tenant => { tenant with engine } }

/-- Drop an engine, and tell whether there was one. -/
def dropEngine (site : Site) (name : String) : Bool × Site :=
  (site.engines.contains name, { site with engines := site.engines.erase name })

end Site

end TextIndex
