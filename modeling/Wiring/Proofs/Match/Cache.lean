import Mathlib.Data.List.DropRight
import Wiring.Injection.Plan
import Wiring.Match.Cache
import Wiring.Proofs.First

/-!
# What a cache remembers

Calls to a cache come in any order, and types that are described differently may have one
identity.  What is remembered under an identity is read off the history of the calls: it
is what the first scan brought that succeeded since the identity was last forgotten.  A
type that shares its identity with no other is therefore answered as if there were no
cache.
-/

namespace Wiring

/-- What a cache can be asked to do. -/
inductive CacheCall where
  | discover (lineage : Lineage)
  | contains (lineage : Lineage)
  | invalidate (lineage : Lineage)
  | clear
  | size

/-- What the caller gets for it. -/
inductive CacheAnswer where
  | discovered (pass : Pass SharedMatches)
  | contained (present : Bool)
  | invalidated (present : Bool)
  | cleared
  | counted (size : Nat)

/-- A call that was answered. -/
structure CacheEvent where
  call : CacheCall
  answer : CacheAnswer

namespace ScanCache

/-- The answer to a call, and the cache afterwards. -/
def serve (cache : ScanCache) : CacheCall → CacheAnswer × ScanCache
  | .discover lineage =>
      let discovered := cache.discover lineage
      (.discovered discovered.1, discovered.2)
  | .contains lineage => (.contained (cache.contains lineage), cache)
  | .invalidate lineage =>
      let invalidated := cache.invalidate lineage
      (.invalidated invalidated.1, invalidated.2)
  | .clear => (.cleared, cache.clear)
  | .size => (.counted cache.size, cache)

/-- The history of calls that are served one after the other, and the cache afterwards. -/
def serveAll (cache : ScanCache) : List CacheCall → List CacheEvent × ScanCache
  | [] => ([], cache)
  | call :: rest =>
      let served := cache.serve call
      let others := served.2.serveAll rest
      (⟨call, served.1⟩ :: others.1, others.2)

end ScanCache

/-- The pass has looked at members, and not merely handed out what was known. -/
def Pass.Scans {α : Type} (pass : Pass α) : Prop :=
  ∃ scope root?, LogEntry.discovering scope root? ∈ pass.log

/-- Whether a call makes the cache forget an identity. -/
def CacheCall.forgets (id : TypeId) : CacheCall → Bool
  | invalidate lineage => lineage.type == id
  | clear => true
  | _ => false

namespace CacheEvent

/-- A scan of a type with the identity succeeded. -/
def Finds (id : TypeId) (event : CacheEvent) : Prop :=
  ∃ lineage pass shared, event = ⟨.discover lineage, .discovered pass⟩ ∧
    lineage.type = id ∧ pass.Scans ∧ pass.result = .ok shared

/-- The part of a history that comes after the identity was last forgotten. -/
def sinceForgotten (id : TypeId) (history : List CacheEvent) : List CacheEvent :=
  history.rtakeWhile fun event => !event.call.forgets id

variable {id : TypeId} {event : CacheEvent} {history : List CacheEvent}

theorem sinceForgotten_append_of_kept (kept : event.call.forgets id = false) :
    sinceForgotten id (history ++ [event]) = sinceForgotten id history ++ [event] :=
  List.rtakeWhile_concat_pos _ _ _ (by simp [kept])

theorem sinceForgotten_append_of_forgotten (forgotten : event.call.forgets id = true) :
    sinceForgotten id (history ++ [event]) = [] :=
  List.rtakeWhile_concat_neg _ _ _ (by simp [forgotten])

theorem finds_discovered_iff {lineage : Lineage} {pass : Pass SharedMatches} :
    Finds id ⟨.discover lineage, .discovered pass⟩ ↔
      lineage.type = id ∧ pass.Scans ∧ ∃ shared, pass.result = .ok shared := by
  constructor
  · rintro ⟨_, _, shared, same, sameType, scans, succeeded⟩
    cases same
    exact ⟨sameType, scans, shared, succeeded⟩
  · rintro ⟨sameType, scans, shared, succeeded⟩
    exact ⟨lineage, pass, shared, rfl, sameType, scans, succeeded⟩

/-- Only a discovery can find something. -/
theorem Finds.exists_discover (finds : event.Finds id) :
    ∃ lineage, event.call = .discover lineage := by
  rcases finds with ⟨lineage, pass, shared, rfl, -⟩
  exact ⟨lineage, rfl⟩

theorem mem_of_mem_sinceForgotten (present : event ∈ sinceForgotten id history) :
    event ∈ history :=
  (List.rtakeWhile_suffix _ _).mem present

end CacheEvent

/-! ## One identity -/

/-- What is remembered under an identity after the calls of a history. -/
structure Remembered (scanner : Scanner) (history : List CacheEvent) (id : TypeId)
    (stored? : Option SharedMatches) : Prop where
  /-- Something is remembered exactly when some scan has succeeded since. -/
  isSome_iff : stored?.isSome = true ↔
    ∃ event ∈ CacheEvent.sinceForgotten id history, event.Finds id
  /-- It is what the scanner finds for the first type whose scan has succeeded. -/
  first : ∀ shared, stored? = some shared → ∃ lineage pass,
    First (CacheEvent.Finds id) (CacheEvent.sinceForgotten id history)
        ⟨.discover lineage, .discovered pass⟩ ∧
      (scanner.discover (some lineage)).result = .ok shared.matchSet

namespace Remembered

variable {scanner : Scanner} {history : List CacheEvent} {event : CacheEvent} {id : TypeId}
  {stored? : Option SharedMatches}

theorem nil (scanner : Scanner) (id : TypeId) : Remembered scanner [] id none := by
  constructor
  · simp [CacheEvent.sinceForgotten]
  · simp

/-- A call that neither forgets nor finds makes no difference. -/
theorem keep (remembered : Remembered scanner history id stored?)
    (kept : event.call.forgets id = false) (missed : ¬ event.Finds id) :
    Remembered scanner (history ++ [event]) id stored? := by
  constructor
  · rw [remembered.isSome_iff, CacheEvent.sinceForgotten_append_of_kept kept]
    simp [or_and_right, exists_or, missed]
  · intro shared known
    obtain ⟨lineage, pass, first, scanned⟩ := remembered.first shared known
    rw [CacheEvent.sinceForgotten_append_of_kept kept]
    exact ⟨lineage, pass, first.append [event], scanned⟩

theorem forget (forgotten : event.call.forgets id = true) :
    Remembered scanner (history ++ [event]) id none := by
  constructor
  · rw [CacheEvent.sinceForgotten_append_of_forgotten forgotten]
    simp
  · simp

/-- The first scan to succeed settles what is remembered. -/
theorem find (remembered : Remembered scanner history id none) {lineage : Lineage}
    {pass : Pass SharedMatches} {shared : SharedMatches}
    (finds : CacheEvent.Finds id ⟨.discover lineage, .discovered pass⟩)
    (scanned : (scanner.discover (some lineage)).result = .ok shared.matchSet) :
    Remembered scanner (history ++ [⟨.discover lineage, .discovered pass⟩]) id
      (some shared) := by
  have clean : ∀ earlier ∈ CacheEvent.sinceForgotten id history, ¬ earlier.Finds id := by
    intro earlier present found
    have known := remembered.isSome_iff.mpr ⟨earlier, present, found⟩
    contradiction
  constructor
  · rw [CacheEvent.sinceForgotten_append_of_kept rfl]
    simp [finds]
  · intro known same
    rw [← Option.some.inj same, CacheEvent.sinceForgotten_append_of_kept rfl]
    exact ⟨lineage, pass, First.of_clean clean finds, scanned⟩

end Remembered

/-! ## One call -/

/-- A scan says so in its log. -/
theorem Scanner.scans_discover (scanner : Scanner) (lineage : Lineage) :
    (scanner.discover (some lineage)).Scans := by
  refine ⟨scanner.scope, some lineage.name, ?_⟩
  unfold discover
  rw [Pass.log_bind_of_ok _ (Pass.result_note _)]
  exact List.mem_append_left _ (List.mem_singleton_self _)

namespace ScanCache

variable {cache : ScanCache} {lineage : Lineage} {shared : SharedMatches} {matchSet : MatchSet}
  {error : DiscoveryError}

/-- What is remembered is handed out without a scan. -/
theorem discover_of_hit (known : cache.entries[lineage.type]? = some shared) :
    cache.discover lineage = (⟨[.cacheHit lineage.name], .ok shared⟩, cache) := by
  simp only [discover, known]
  rfl

theorem discover_of_found (unknown : cache.entries[lineage.type]? = none)
    (scanned : (cache.scanner.discover (some lineage)).result = .ok matchSet) :
    cache.discover lineage =
      (⟨(cache.scanner.discover (some lineage)).log, .ok ⟨matchSet, cache.issued⟩⟩,
        (cache.remember lineage.type matchSet).2) := by
  simp only [discover, unknown, scanned]
  rfl

/-- A failed scan leaves no trace. -/
theorem discover_of_failed (unknown : cache.entries[lineage.type]? = none)
    (failed : (cache.scanner.discover (some lineage)).result = .error error) :
    cache.discover lineage =
      (⟨(cache.scanner.discover (some lineage)).log, .error error⟩, cache) := by
  simp only [discover, unknown, failed]

/-- A set is remembered under one identity only. -/
theorem getElem?_remember (cache : ScanCache) (type id : TypeId) (matchSet : MatchSet) :
    (cache.remember type matchSet).2.entries[id]? =
      if type = id then some ⟨matchSet, cache.issued⟩ else cache.entries[id]? := by
  simp [remember, Std.HashMap.getElem?_insert]

@[simp]
theorem scanner_serve (cache : ScanCache) (call : CacheCall) :
    (cache.serve call).2.scanner = cache.scanner := by
  cases call with
  | discover lineage =>
      change (cache.discover lineage).2.scanner = cache.scanner
      cases known : cache.entries[lineage.type]? with
      | some shared => rw [discover_of_hit known]
      | none =>
          cases scanned : (cache.scanner.discover (some lineage)).result with
          | error error => rw [discover_of_failed known scanned]
          | ok matchSet =>
              rw [discover_of_found known scanned]
              rfl
  | _ => rfl

end ScanCache

namespace Remembered

variable {cache : ScanCache} {history : List CacheEvent} {id : TypeId}

theorem discover (remembered : Remembered cache.scanner history id cache.entries[id]?)
    (lineage : Lineage) :
    Remembered cache.scanner
      (history ++ [⟨.discover lineage, .discovered (cache.discover lineage).1⟩]) id
      (cache.discover lineage).2.entries[id]? := by
  cases known : cache.entries[lineage.type]? with
  | some shared =>
      rw [ScanCache.discover_of_hit known]
      apply remembered.keep rfl
      rw [CacheEvent.finds_discovered_iff]
      rintro ⟨-, ⟨scope, root?, scans⟩, -⟩
      simp at scans
  | none =>
      cases scanned : (cache.scanner.discover (some lineage)).result with
      | error error =>
          rw [ScanCache.discover_of_failed known scanned]
          apply remembered.keep rfl
          rw [CacheEvent.finds_discovered_iff]
          rintro ⟨-, -, shared, succeeded⟩
          contradiction
      | ok matchSet =>
          rw [ScanCache.discover_of_found known scanned, ScanCache.getElem?_remember]
          by_cases same : lineage.type = id
          · subst same
            rw [known] at remembered
            rw [if_pos rfl]
            apply remembered.find _ scanned
            exact CacheEvent.finds_discovered_iff.mpr
              ⟨rfl, cache.scanner.scans_discover lineage, _, rfl⟩
          · rw [if_neg same]
            apply remembered.keep rfl
            intro found
            exact same (CacheEvent.finds_discovered_iff.mp found).1

/-- Every call keeps the books on every identity. -/
theorem serve (remembered : Remembered cache.scanner history id cache.entries[id]?)
    (call : CacheCall) :
    Remembered cache.scanner (history ++ [⟨call, (cache.serve call).1⟩]) id
      (cache.serve call).2.entries[id]? := by
  cases call with
  | discover lineage => exact remembered.discover lineage
  | contains lineage =>
      apply remembered.keep rfl
      intro found
      simpa using found.exists_discover
  | invalidate lineage =>
      change Remembered _ _ _ (cache.entries.erase lineage.type)[id]?
      rw [Std.HashMap.getElem?_erase]
      cases same : lineage.type == id with
      | true => exact forget same
      | false =>
          apply remembered.keep
          · exact same
          · intro found
            simpa using found.exists_discover
  | clear =>
      change Remembered _ _ _ (∅ : Std.HashMap TypeId SharedMatches)[id]?
      rw [Std.HashMap.getElem?_empty]
      exact forget rfl
  | size =>
      apply remembered.keep rfl
      intro found
      simpa using found.exists_discover

/-- The books are kept over any run. -/
theorem serveAll (calls : List CacheCall)
    (remembered : Remembered cache.scanner history id cache.entries[id]?) :
    Remembered cache.scanner (history ++ (cache.serveAll calls).1) id
      (cache.serveAll calls).2.entries[id]? := by
  induction calls generalizing cache history with
  | nil =>
      change Remembered _ (history ++ []) id _
      rw [List.append_nil]
      exact remembered
  | cons call rest inductionHypothesis =>
      have served := remembered.serve call
      rw [← cache.scanner_serve call] at served
      have later := inductionHypothesis served
      rw [cache.scanner_serve, List.append_assoc] at later
      exact later

end Remembered

/-! ## A run of calls -/

namespace ScanCache

@[simp]
theorem scanner_serveAll (calls : List CacheCall) (cache : ScanCache) :
    (cache.serveAll calls).2.scanner = cache.scanner := by
  induction calls generalizing cache with
  | nil => rfl
  | cons call rest inductionHypothesis =>
      change ((cache.serve call).2.serveAll rest).2.scanner = _
      rw [inductionHypothesis, scanner_serve]

/-- The history is that of the calls. -/
theorem map_call_serveAll (calls : List CacheCall) (cache : ScanCache) :
    (cache.serveAll calls).1.map CacheEvent.call = calls := by
  induction calls generalizing cache with
  | nil => rfl
  | cons call rest inductionHypothesis =>
      exact congrArg (call :: ·) (inductionHypothesis (cache.serve call).2)

/-- How a cache answers, given what it remembers. -/
structure Answers (cache : ScanCache) (scanner : Scanner) : Prop where
  /-- A remembered set is handed out without a scan, which might even fail. -/
  hit : ∀ lineage shared, cache.entries[lineage.type]? = some shared →
    cache.discover lineage = (⟨[.cacheHit lineage.name], .ok shared⟩, cache)
  /-- Otherwise the scan is the answer. -/
  miss : ∀ lineage, cache.entries[lineage.type]? = none →
    (cache.discover lineage).1.log = (scanner.discover (some lineage)).log ∧
      (cache.discover lineage).1.result.map (·.matchSet) =
        (scanner.discover (some lineage)).result
  /-- A failed scan is not remembered, and will be tried again. -/
  failed : ∀ lineage error, cache.entries[lineage.type]? = none →
    (scanner.discover (some lineage)).result = .error error →
      (cache.discover lineage).2 = cache ∧
        ((cache.discover lineage).2.discover lineage).1.Scans
  contains_iff : ∀ lineage : Lineage,
    cache.contains lineage = true ↔ (cache.entries[lineage.type]?).isSome = true
  invalidate_iff : ∀ lineage : Lineage,
    (cache.invalidate lineage).1 = true ↔ (cache.entries[lineage.type]?).isSome = true
  /-- Every identity counts once. -/
  size : ∃ ids : List TypeId, ids.Nodup ∧
    (∀ id, id ∈ ids ↔ (cache.entries[id]?).isSome = true) ∧ cache.size = ids.length

theorem answers (cache : ScanCache) : cache.Answers cache.scanner := by
  have contains_eq : ∀ lineage : Lineage,
      cache.contains lineage = (cache.entries[lineage.type]?).isSome :=
    fun _ => Std.HashMap.contains_eq_isSome_getElem?
  constructor
  · intro lineage shared known
    exact discover_of_hit known
  · intro lineage unknown
    cases scanned : (cache.scanner.discover (some lineage)).result with
    | error error =>
        rw [discover_of_failed unknown scanned]
        exact ⟨rfl, rfl⟩
    | ok matchSet =>
        rw [discover_of_found unknown scanned]
        exact ⟨rfl, rfl⟩
  · intro lineage error unknown failed
    rw [discover_of_failed unknown failed, discover_of_failed unknown failed]
    exact ⟨rfl, cache.scanner.scans_discover lineage⟩
  · intro lineage
    rw [contains_eq]
  · intro lineage
    change cache.contains lineage = true ↔ _
    rw [contains_eq]
  · refine ⟨cache.entries.keys, Std.HashMap.nodup_keys, ?_, Std.HashMap.length_keys.symm⟩
    intro id
    rw [Std.HashMap.mem_keys, Std.HashMap.mem_iff_isSome_getElem?]

theorem remembered_serveAll (scanner : Scanner) (calls : List CacheCall) (id : TypeId) :
    Remembered scanner ((ofScanner scanner).serveAll calls).1 id
      ((ofScanner scanner).serveAll calls).2.entries[id]? := by
  have fresh : Remembered (ofScanner scanner).scanner [] id (ofScanner scanner).entries[id]? := by
    change Remembered scanner [] id (∅ : Std.HashMap TypeId SharedMatches)[id]?
    rw [Std.HashMap.getElem?_empty]
    exact Remembered.nil scanner id
  exact fresh.serveAll calls

/-- After any calls, what is remembered is what the history says, and the cache answers
accordingly.  A type whose identity was used for no other is answered as by its scan. -/
theorem serves_first_scans (scanner : Scanner) (calls : List CacheCall) :
    ∃ history cache, (ofScanner scanner).serveAll calls = (history, cache) ∧
      (∀ id, Remembered scanner history id cache.entries[id]?) ∧ cache.Answers scanner ∧
        ∀ lineage : Lineage,
          (∀ other, .discover other ∈ calls → other.type = lineage.type → other = lineage) →
            (cache.discover lineage).1.result.map (·.matchSet) =
              (scanner.discover (some lineage)).result := by
  have answers := ((ofScanner scanner).serveAll calls).2.answers
  rw [scanner_serveAll] at answers
  refine ⟨_, _, rfl, remembered_serveAll scanner calls, answers, ?_⟩
  intro lineage alone
  cases known : ((ofScanner scanner).serveAll calls).2.entries[lineage.type]? with
  | none => exact (answers.miss lineage known).2
  | some shared =>
      obtain ⟨other, pass, first, scanned⟩ :=
        (remembered_serveAll scanner calls lineage.type).first shared known
      have called : .discover other ∈ calls := by
        rw [← map_call_serveAll calls (ofScanner scanner)]
        exact List.mem_map_of_mem (CacheEvent.mem_of_mem_sinceForgotten first.mem)
      have sameType := (CacheEvent.finds_discovered_iff.mp first.holds).1
      rw [answers.hit lineage shared known, ← alone other called sameType, scanned]
      rfl

end ScanCache

/-! ## Three editions of a book -/

namespace Edition

/-- All editions have the identity of the book. -/
def edition (name ident : String) (modifiers : Modifiers) : Lineage :=
  .root {
    key := 0
    name := name
    type := ⟨"Book"⟩
    fields :=
      [⟨ident, .field, ⟨⟨"Text"⟩, .reference⟩, modifiers, [Marker.plain "resource"], none⟩] }

/-- Nothing can be bound to the page of the spoiled edition. -/
def spoiled : Lineage := edition "Spoiled" "page" { isStatic := true }

def draft : Lineage := edition "Draft" "note" {}

def print : Lineage := edition "Print" "page" {}

def scanner : Scanner := (Injector.mk "resource" {}).scanner none .fields

def calls : List CacheCall := [.discover spoiled, .discover draft, .invalidate print]

/-- The draft is the first edition whose scan succeeds, and from then on it stands for every
edition, the spoiled one included, until the book is forgotten. -/
theorem draft_stands_for_editions :
    (∃ history cache shared,
      (ScanCache.ofScanner scanner).serveAll (calls.take 2) = (history, cache) ∧
        shared.matchSet.idents = ["note"] ∧
        cache.discover print = (⟨[.cacheHit "Print"], .ok shared⟩, cache) ∧
        cache.discover spoiled = (⟨[.cacheHit "Spoiled"], .ok shared⟩, cache)) ∧
    ∃ history cache, (ScanCache.ofScanner scanner).serveAll calls = (history, cache) ∧
      (cache.discover print).1.result.map (·.matchSet) =
        (scanner.discover (some print)).result := by
  constructor
  · obtain ⟨history, cache, served, -, answers, -⟩ :=
      ScanCache.serves_first_scans scanner (calls.take 2)
    have unknown : (ScanCache.ofScanner scanner).entries[TypeId.mk "Book"]? = none :=
      Std.HashMap.getElem?_empty
    have spoiledFails : ∃ pass, (ScanCache.ofScanner scanner).discover spoiled =
        (pass, ScanCache.ofScanner scanner) :=
      ⟨_, ScanCache.discover_of_failed unknown rfl⟩
    obtain ⟨pass, spoiledFails⟩ := spoiledFails
    have known : ∃ shared, cache.entries[TypeId.mk "Book"]? = some shared ∧
        shared.matchSet.idents = ["note"] := by
      have run : cache =
          (((ScanCache.ofScanner scanner).discover spoiled).2.discover draft).2 :=
        (congrArg Prod.snd served).symm
      rw [run, spoiledFails, ScanCache.discover_of_found unknown rfl]
      exact ⟨_, Std.HashMap.getElem?_insert_self, rfl⟩
    obtain ⟨shared, known, idents⟩ := known
    exact ⟨history, cache, shared, served, idents, answers.hit print shared known,
      answers.hit spoiled shared known⟩
  · obtain ⟨history, cache, served, remembered, answers, -⟩ :=
      ScanCache.serves_first_scans scanner calls
    have forgotten : CacheEvent.sinceForgotten ⟨"Book"⟩ history = [] := by
      have run : history = ((ScanCache.ofScanner scanner).serveAll calls).1 :=
        (congrArg Prod.fst served).symm
      rw [run]
      rfl
    have unknown : cache.entries[TypeId.mk "Book"]? = none := by
      have present := (remembered ⟨"Book"⟩).isSome_iff
      rw [forgotten] at present
      simpa using present
    exact ⟨history, cache, served, (answers.miss print unknown).2⟩

end Edition

end Wiring
