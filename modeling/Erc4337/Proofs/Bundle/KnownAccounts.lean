import Erc4337.Proofs.Bundle.Safety
import Erc4337.Proofs.Validation.StorageMerge
/-! A bundle's storage precondition covers the storage of every operation it includes. When an
operation is included, the bundle's map either pins the sender's storage root (conditional sending,
no factory) or has the storage the validation read merged in; merging makes the map cover each
reported entry (`mergeCovers`). Coverage is monotone: pinning a root and merging another map keep
every entry covered (`Covers.set`, `Covers.merge`), so what one inclusion set up survives every
later one of the same build. -/
namespace Erc4337

section Keys
variable {κ ν : Type} [Ord κ] [Std.LawfulEqOrd κ]

theorem keysSortedInsert (k : κ) (v : ν) (l : List (κ × ν)) (j : κ) :
    j ∈ (sortedInsert k v l).map (·.1) ↔ j = k ∨ j ∈ l.map (·.1) := by
  induction l with
  | nil => simp [sortedInsert]
  | cons x rest ih =>
    obtain ⟨k',v'⟩ := x
    simp only [sortedInsert]
    split
    · simp
    · rename_i same
      cases Std.LawfulEqCmp.eq_of_compare same
      simp
    · simp only [List.map_cons, List.mem_cons, ih]
      tauto

theorem keysFoldInsert (vs old : List (κ × ν)) (j : κ) :
    j ∈ (vs.foldl (fun acc (k, v) => sortedInsert k v acc) old).map (·.1) ↔
      j ∈ vs.map (·.1) ∨ j ∈ old.map (·.1) := by
  induction vs generalizing old with
  | nil => simp
  | cons x rest ih =>
    rw [List.foldl_cons, ih, keysSortedInsert]
    simp only [List.map_cons, List.mem_cons]
    tauto

end Keys

namespace StorageMap

def Pins (m : StorageMap) (a : Address) : Prop := ∃ h, m.find? a = some (.root h)

def Covers (m : StorageMap) (a : Address) : AccountStorage → Prop
  | .root _ => m.Pins a
  | .slots vs _ => m.Pins a ∨ ∃ ws sorted, m.find? a = some (.slots ws sorted) ∧ ∀ k ∈ vs.map (·.1), k ∈ ws.map (·.1)

theorem setPins (m : StorageMap) (a : Address) (h : Hash) : (m.set a (.root h)).Pins a := ⟨h,findSetSelf m a _⟩

theorem Covers.pins {m : StorageMap} {a : Address} (pinned : m.Pins a) : ∀ s, m.Covers a s
  | .root _ => pinned
  | .slots _ _ => .inl pinned

theorem Covers.ofFind {m n : StorageMap} {a : Address} (same : n.find? a = m.find? a) {s : AccountStorage}
    (covered : m.Covers a s) : n.Covers a s := by
  cases s with
  | root h => obtain ⟨h',found⟩ := covered; exact ⟨h',same.trans found⟩
  | slots vs _ =>
    rcases covered with ⟨h',found⟩ | ⟨ws,sorted,found,keys⟩
    · exact .inl ⟨h',same.trans found⟩
    · exact .inr ⟨ws,sorted,same.trans found,keys⟩

theorem Covers.set {m : StorageMap} {a : Address} {s : AccountStorage} (covered : m.Covers a s) (b : Address)
    (h : Hash) : (m.set b (.root h)).Covers a s := by
  by_cases same : a = b
  · subst same
    exact Covers.pins (setPins m a h) s
  · exact covered.ofFind (findSetNe m _ same)

theorem findMergeEntryFresh {m : StorageMap} {a : Address} {vs : List (Hash × Hash)} (sortedV : SortedKeys vs)
    (found : m.find? a = none) :
    (m.mergeEntry a (.slots vs sortedV)).find? a = some (.joinSlots vs [] List.Pairwise.nil) := by
  simp [StorageMap.mergeEntry, found]

theorem findMergeEntryJoined {m : StorageMap} {a : Address} {vs old : List (Hash × Hash)} (sortedV : SortedKeys vs)
    {sortedO : SortedKeys old} (found : m.find? a = some (.slots old sortedO)) :
    (m.mergeEntry a (.slots vs sortedV)).find? a = some (.joinSlots vs old sortedO) := by
  simp [StorageMap.mergeEntry, found]

theorem Covers.mergeEntry {m : StorageMap} {a : Address} {s : AccountStorage} (covered : m.Covers a s) (b : Address)
    (t : AccountStorage) : (m.mergeEntry b t).Covers a s := by
  cases t with
  | root h => exact covered.set b h
  | slots vs sortedV =>
    by_cases same : a = b
    · subst same
      cases found : m.find? a with
      | none =>
        cases s with
        | root _ => obtain ⟨_,pinned⟩ := covered; simp [found] at pinned
        | slots _ _ =>
          rcases covered with ⟨_,pinned⟩ | ⟨_,_,had,_⟩
          · simp [found] at pinned
          · simp [found] at had
      | some old =>
        cases old with
        | root h' => simpa [StorageMap.mergeEntry, found] using covered
        | slots old sortedO =>
          cases s with
          | root _ => obtain ⟨_,pinned⟩ := covered; simp [found] at pinned
          | slots ks _ =>
            rcases covered with ⟨_,pinned⟩ | ⟨ws,_,had,keys⟩
            · simp [found] at pinned
            · rw [found, Option.some.injEq, AccountStorage.slots.injEq] at had
              subst had
              exact .inr ⟨_,_,findMergeEntryJoined sortedV found,fun k mem => (keysFoldInsert vs old k).mpr (.inr (keys k mem))⟩
    · have kept : (m.mergeEntry b (.slots vs sortedV)).find? a = m.find? a := by
        cases found : m.find? b with
        | none => simp [StorageMap.mergeEntry, found, same]
        | some old => cases old <;> simp [StorageMap.mergeEntry, found, same]
      exact covered.ofFind kept

theorem Covers.merge {m : StorageMap} {a : Address} {s : AccountStorage} (covered : m.Covers a s) (src : StorageMap) :
    (m.merge src).Covers a s := by
  obtain ⟨entries, sorted⟩ := src
  induction entries generalizing m with
  | nil => exact covered
  | cons x rest ih =>
    obtain ⟨b,t⟩ := x
    rw [mergeCons]
    exact ih (covered.mergeEntry b t) sorted.tail

theorem mergeEntryCovers (m : StorageMap) (a : Address) (s : AccountStorage) : (m.mergeEntry a s).Covers a s := by
  cases s with
  | root h => exact setPins m a h
  | slots vs sortedV =>
    cases found : m.find? a with
    | none => exact .inr ⟨_,_,findMergeEntryFresh sortedV found,fun k mem => (keysFoldInsert vs [] k).mpr (.inl mem)⟩
    | some old =>
      cases old with
      | root h => exact .inl ⟨h,by simp [StorageMap.mergeEntry, found]⟩
      | slots old _ =>
        exact .inr ⟨_,_,findMergeEntryJoined sortedV found,fun k mem => (keysFoldInsert vs old k).mpr (.inl mem)⟩

theorem mergeCovers (m src : StorageMap) : ∀ y ∈ src.entries, (m.merge src).Covers y.1 y.2 := by
  obtain ⟨entries, sorted⟩ := src
  induction entries generalizing m with
  | nil => intro y mem; cases mem
  | cons x rest ih =>
    intro y mem
    obtain ⟨b,t⟩ := x
    rw [mergeCons]
    rcases List.mem_cons.mp mem with rfl | inside
    · exact (mergeEntryCovers m b t).merge ⟨rest, sorted.tail⟩
    · exact ih _ sorted.tail y inside

end StorageMap

namespace Bundle
open Service Mempool StorageMap

def Footprint (cfg : BuilderConfig) (m : StorageMap) (e : Entry) (res : Validation.Result) : Prop :=
  (cfg.conditionalRpc = true ∧ e.op.hasFactory = false → m.Pins e.op.sender) ∧
    (¬(cfg.conditionalRpc = true ∧ e.op.hasFactory = false) → ∀ y ∈ res.storageMap.entries, m.Covers y.1 y.2)

namespace Footprint
variable {cfg : BuilderConfig} {m : StorageMap} {e : Entry} {res : Validation.Result}

theorem set (foot : Footprint cfg m e res) (b : Address) (h : Hash) : Footprint cfg (m.set b (.root h)) e res :=
  ⟨fun pinned => @Covers.set m e.op.sender (.root h) (foot.1 pinned) b h,fun merged y mem => (foot.2 merged y mem).set b h⟩

theorem merge (foot : Footprint cfg m e res) (src : StorageMap) : Footprint cfg (m.merge src) e res :=
  ⟨fun pinned => @Covers.merge m e.op.sender (.root .zero) (foot.1 pinned) src,
    fun merged y mem => (foot.2 merged y mem).merge src⟩

end Footprint

structure Pass.Covered (cfg : BuilderConfig) (p : Pass) (included : List (Entry × Validation.Result)) : Prop where
  entries : included.map (·.1) = p.built.entries
  footprints : ∀ x ∈ included, Footprint cfg p.built.storageMap x.1 x.2

namespace Pass.Covered
variable {cfg : BuilderConfig} {p : Pass} {included : List (Entry × Validation.Result)}

theorem start (known : List Address) : Pass.Covered cfg { knownSenders := known } [] :=
  ⟨rfl,fun _ mem => by cases mem⟩

theorem ofSame (covered : p.Covered cfg included) {p' : Pass} (entries : p'.built.entries = p.built.entries)
    (storage : p'.built.storageMap = p.built.storageMap) : p'.Covered cfg included :=
  ⟨covered.entries.trans entries.symm,fun x mem => storage ▸ covered.footprints x mem⟩

theorem add (covered : p.Covered cfg included) {e : Entry} {res : Validation.Result} {p' : Pass}
    (entries : p'.built.entries = p.built.entries ++ [e])
    (pinned : cfg.conditionalRpc = true ∧ e.op.hasFactory = false →
      ∃ root, p'.built.storageMap = p.built.storageMap.set e.op.sender (.root root))
    (merged : ¬(cfg.conditionalRpc = true ∧ e.op.hasFactory = false) →
      p'.built.storageMap = p.built.storageMap.merge res.storageMap) :
    p'.Covered cfg (included ++ [(e,res)]) := by
  refine ⟨by simp [covered.entries, entries],fun x mem => ?_⟩
  rcases List.mem_append.mp mem with old | new
  ·
    by_cases conditional : cfg.conditionalRpc = true ∧ e.op.hasFactory = false
    · obtain ⟨root,stored⟩ := pinned conditional
      exact stored ▸ (covered.footprints x old).set e.op.sender root
    · exact merged conditional ▸ (covered.footprints x old).merge res.storageMap
  · rw [List.mem_singleton] at new
    subst new
    by_cases conditional : cfg.conditionalRpc = true ∧ e.op.hasFactory = false
    · obtain ⟨root,stored⟩ := pinned conditional
      exact ⟨fun _ => stored ▸ setPins _ _ root,fun other => absurd conditional other⟩
    · exact ⟨fun pins => absurd pins conditional,fun _ => merged conditional ▸ mergeCovers _ _⟩

end Pass.Covered

section
variable {σ : Type} (b : Backend (StateM σ))

theorem scanCovered {cfg : BuilderConfig} (l : List Entry) {p : Pass} {s : Service} {τ : σ}
    {r : Except Fault Pass} {s' : Service} {τ' : σ} (run : runSt (scan b cfg p l) s τ = ((r,s'),τ'))
    {included : List (Entry × Validation.Result)} (covered : p.Covered cfg included) {p'' : Pass}
    (ok : r = .ok p'') :
    ∃ answered more, b.Validations τ answered τ' ∧ more.Sublist answered ∧ p''.Covered cfg (included ++ more) := by
  refine scanKeeps b (fun _ p included _ => p.Covered cfg included) (fun covered considered => ?_) l run covered ok
  refine ⟨fun other _ _ _ => ?_,fun res τ1 valid included => ?_⟩
  · obtain ⟨-,⟨deposits,rfl⟩,-⟩ := considerOther b considered other
    exact covered.ofSame rfl rfl
  · subst included
    obtain ⟨res',τ1',valid',entries,pinned,merged⟩ := considerIncludeStorage b considered
    rw [valid, Prod.mk.injEq, Except.ok.injEq] at valid'
    obtain ⟨rfl,rfl⟩ := valid'
    exact covered.add entries pinned merged

/-- The storage a bundle assumes covers every operation it includes, whatever the collaborators
answer. Judged by the answer the validator gave each operation during the build: without
conditional sending, or for an operation with a factory, every address of the storage the
validation read is pinned to a root in the bundle's map or has there a slot map with every slot the
validation reported, and a reported root is a root there; with conditional sending, an operation
without a factory has its sender pinned to a root. -/
theorem buildCoversFootprints {s : Service} {entries : List Entry} {τ : σ} {r : Except Fault Built} {s' : Service}
    {τ' : σ} (run : runSt (build b entries) s τ = ((r,s'),τ')) {built : Built} (ok : r = .ok built) :
    let cfg := s.settings.config.builder.withDefaults
    ∃ answered included : List (Entry × Validation.Result), b.Validations τ answered τ' ∧ included.Sublist answered ∧
      included.map (·.1) = built.entries ∧
      ∀ x ∈ included,
        (cfg.conditionalRpc = false ∨ x.1.op.hasFactory = true →
          ∀ y ∈ x.2.storageMap.entries, built.storageMap.Covers y.1 y.2) ∧
        (cfg.conditionalRpc = true ∧ x.1.op.hasFactory = false → built.storageMap.Pins x.1.op.sender) := by
  intro cfg
  simp only [build, runStBind, runStConfig, runStGet] at run
  rcases scanned : runSt (scan b cfg { knownSenders := s.pool.knownSenders } entries) s τ with ⟨⟨r1,s1⟩,τ1⟩
  simp only [cfg] at scanned
  simp only [scanned] at run
  cases r1 with
  | error f =>
    simp only [runStPure, Prod.mk.injEq] at run
    obtain ⟨⟨rfl,rfl⟩,rfl⟩ := run
    cases ok
  | ok p =>
    simp only [runStRevertAll, runStBind, runStLog, runStPure, Prod.mk.injEq] at run
    obtain ⟨⟨rfl,rfl⟩,rfl⟩ := run
    cases ok
    obtain ⟨answered,included,trace,sub,covered⟩ := scanCovered b entries scanned (Pass.Covered.start _) rfl
    rw [List.nil_append] at covered
    refine ⟨answered,included,trace,sub,covered.entries,fun x hx => ⟨fun merged => ?_,(covered.footprints x hx).1⟩⟩
    refine (covered.footprints x hx).2 fun conditional => ?_
    rcases merged with off | factory
    · exact Bool.noConfusion (conditional.1.symm.trans off)
    · exact Bool.noConfusion (factory.symm.trans conditional.2)

end

theorem buildCoversOneSlot :
    let entry : Entry := { serial := 0, op := { sender := .ofNat 16 }, hash := .zero }
    let s := Service.create { config := default }
    let τ : Sim.Script :=
      { defaultVerdict := .accept { storageMap :=
          ⟨[(.ofNat 16, .slots [(.ofNat 1, .ofNat 2)] (List.pairwise_singleton _ _))], List.pairwise_singleton _ _⟩ } }
    let run := runSt (build (Sim.backend .zero .absent) [entry]) s τ
    let cfg := s.settings.config.builder.withDefaults
    ∃ built : Built, run.1.1 = .ok built ∧ built.entries.map (·.hash) = [entry.hash] ∧
      ∃ answered included : List (Entry × Validation.Result),
        (Sim.backend .zero .absent).Validations τ answered run.2 ∧ included.Sublist answered ∧
        included.map (·.1) = built.entries ∧
        ∀ x ∈ included,
          (cfg.conditionalRpc = false ∨ x.1.op.hasFactory = true →
            ∀ y ∈ x.2.storageMap.entries, built.storageMap.Covers y.1 y.2) ∧
          (cfg.conditionalRpc = true ∧ x.1.op.hasFactory = false → built.storageMap.Pins x.1.op.sender) := by
  intro entry s τ
  have included : ((runSt (build (Sim.backend .zero .absent) [entry]) s τ).1.1.toOption.any
      fun built => built.entries.map (·.hash) == [entry.hash]) = true := by decide +kernel
  generalize ran : runSt (build (Sim.backend .zero .absent) [entry]) s τ = out at included ⊢
  obtain ⟨⟨r,s'⟩,τ'⟩ := out
  cases r with
  | error f => cases included
  | ok built =>
    change (built.entries.map (·.hash) == [entry.hash]) = true at included
    obtain ⟨answered,inc,trace,sub,entries,covers⟩ := buildCoversFootprints (Sim.backend .zero .absent) ran rfl
    exact ⟨built,rfl,by simpa using included,answered,inc,trace,sub,entries,covers⟩

end Bundle

end Erc4337
