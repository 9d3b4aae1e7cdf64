import Std.Data.HashMap
import Wiring.Match.Scan

/-!
# Remembered scans

A cache remembers the match sets that its scanner found, by the identity of the
scanned type.  A remembered set is handed out again and again; it is shared,
and all holders of it hold one object.  Failed scans are not remembered.
-/

namespace Wiring

/-- A match set that is handed out more than once. -/
structure SharedMatches where
  matchSet : MatchSet
  /-- Tells the shared objects of one cache apart. -/
  serial : Nat

/-- A scanner and the sets it found. -/
structure ScanCache where
  scanner : Scanner
  entries : Std.HashMap TypeId SharedMatches := ∅
  /-- How many shared objects there have been. -/
  issued : Nat := 0

namespace ScanCache

/-- A cache that remembers nothing yet. -/
def ofScanner (scanner : Scanner) : ScanCache := { scanner }

/-- Remember a set under the identity of a type, as a new shared object. -/
def remember (cache : ScanCache) (type : TypeId) (matchSet : MatchSet) :
    SharedMatches × ScanCache :=
  let shared : SharedMatches := ⟨matchSet, cache.issued⟩
  (shared, { cache with
    entries := cache.entries.insert type shared
    issued := cache.issued + 1 })

/-- The match set of a type: the remembered one, if there is one under the
identity of the type, or else the one that a scan finds. -/
def discover (cache : ScanCache) (lineage : Lineage) : Pass SharedMatches × ScanCache :=
  match cache.entries[lineage.type]? with
  | some shared =>
      (do Pass.note (.cacheHit lineage.name); return shared, cache)
  | none =>
      let scan := cache.scanner.discover (some lineage)
      match scan.result with
      | .error error => (⟨scan.log, .error error⟩, cache)
      | .ok matchSet =>
          let remembered := cache.remember lineage.type matchSet
          (⟨scan.log, .ok remembered.1⟩, remembered.2)

/-- Whether a set is remembered for the type. -/
def contains (cache : ScanCache) (lineage : Lineage) : Bool :=
  cache.entries.contains lineage.type

/-- Forget the set of a type; the first answer says whether there was one. -/
def invalidate (cache : ScanCache) (lineage : Lineage) : Bool × ScanCache :=
  (cache.contains lineage, { cache with entries := cache.entries.erase lineage.type })

/-- Forget everything. -/
def clear (cache : ScanCache) : ScanCache := { cache with entries := ∅ }

/-- How many sets are remembered. -/
def size (cache : ScanCache) : Nat := cache.entries.size

/-- Whether nothing is remembered. -/
def isEmpty (cache : ScanCache) : Bool := cache.entries.isEmpty

end ScanCache

end Wiring
