import Erc4337.Service.State
/-! How the service's own state operations run, in any lawful monad of collaborators: one
equation per operation, so that a service step written in `do` notation runs out, under
`simp`, to the state it leaves and the value or fault it returns. For collaborators that keep a
state of their own (`StateM σ`, which covers every deterministic behaviour) the equations are
stated on `runIn` and `runSt`, a step run from both states at once; with them a step runs out
path by path, each collaborator call read off its own run. A step that only reads the pool is
`KeepsPool`, and `Quiet` when it cannot fail either: a run is then peeled past it without
naming the state it leaves. -/
namespace Erc4337.Service

variable {m : Type → Type} [Monad m] [LawfulMonad m]

theorem runGet (s : Service) : ((get : SvcE m Service).run).run s = pure (.ok s,s) := by
  have lifted : (get : SvcE m Service) = liftM (MonadStateOf.get : StateT Service m Service) := rfl
  have read : (MonadStateOf.get : StateT Service m Service).run s = pure (s,s) := rfl
  rw [lifted,ExceptT.run_liftM,StateT.run_map,read]
  simp

theorem runSet (s s' : Service) : ((set s' : SvcE m PUnit).run).run s = pure (.ok ⟨⟩,s') := by
  have lifted : (set s' : SvcE m PUnit) = liftM (MonadStateOf.set s' : StateT Service m PUnit) := rfl
  rw [lifted,ExceptT.run_liftM]
  simp

theorem runLog (s : Service) (level : Log.Level) (msg : String) (kv : List String) :
    ((log level msg kv : SvcE m Unit).run).run s =
      pure (.ok (),{ s with journal := s.logger.write s.journal level msg kv }) := by
  have lifted : (log level msg kv : SvcE m Unit) =
      liftM (modify fun s : Service => { s with journal := s.logger.write s.journal level msg kv } :
        StateT Service m Unit) := rfl
  rw [lifted,ExceptT.run_liftM]
  simp

section Stateful
variable {σ α β : Type}

def runIn (x : SvcE (StateM σ) α) (s : Service) (τ : σ) : (Except Fault α × Service) × σ := ((x.run).run s).run τ

def runSt (x : SvcM (StateM σ) α) (s : Service) (τ : σ) : (α × Service) × σ := (x.run s).run τ

@[simp] theorem runInPure (a : α) (s : Service) (τ : σ) :
    runIn (pure a : SvcE (StateM σ) α) s τ = ((.ok a,s),τ) := rfl

@[simp] theorem runInThrow (e : Fault) (s : Service) (τ : σ) :
    runIn (throw e : SvcE (StateM σ) α) s τ = ((.error e,s),τ) := rfl

@[simp] theorem runInGet (s : Service) (τ : σ) : runIn (get : SvcE (StateM σ) Service) s τ = ((.ok s,s),τ) := rfl

@[simp] theorem runInLog (level : Log.Level) (msg : String) (kv : List String) (s : Service) (τ : σ) :
    runIn (log level msg kv : SvcE (StateM σ) Unit) s τ =
      ((.ok (),{ s with journal := s.logger.write s.journal level msg kv }),τ) := rfl

@[simp] theorem runInLift (x : StateM σ α) (s : Service) (τ : σ) :
    runIn (liftM x : SvcE (StateM σ) α) s τ = ((.ok (x.run τ).1,s),(x.run τ).2) := rfl

@[simp] theorem runInBind (x : SvcE (StateM σ) α) (f : α → SvcE (StateM σ) β) (s : Service) (τ : σ) :
    runIn (x >>= f) s τ = match runIn x s τ with
      | ((.ok a,s'),τ') => runIn (f a) s' τ'
      | ((.error e,s'),τ') => ((.error e,s'),τ') := by
  unfold runIn
  simp only [ExceptT.run_bind, StateT.run_bind]
  rcases ((x.run).run s).run τ with ⟨⟨_ | a,s'⟩,τ'⟩ <;> rfl

@[simp] theorem runInMap (f : α → β) (x : SvcE (StateM σ) α) (s : Service) (τ : σ) :
    runIn (f <$> x) s τ = match runIn x s τ with
      | ((.ok a,s'),τ') => ((.ok (f a),s'),τ')
      | ((.error e,s'),τ') => ((.error e,s'),τ') := by
  rw [map_eq_pure_bind, runInBind]
  rcases runIn x s τ with ⟨⟨_ | a,s'⟩,τ'⟩ <;> rfl

@[simp] theorem runInCall (x : StateM σ (Except Fault α)) (s : Service) (τ : σ) :
    runIn (call x) s τ = (((x.run τ).1,s),(x.run τ).2) := by
  simp only [call, runInBind, runInLift]
  rcases x.run τ with ⟨_ | a,τ'⟩ <;> rfl

@[simp] theorem runStPure (a : α) (s : Service) (τ : σ) : runSt (pure a : SvcM (StateM σ) α) s τ = ((a,s),τ) := rfl

@[simp] theorem runStBind (x : SvcM (StateM σ) α) (f : α → SvcM (StateM σ) β) (s : Service) (τ : σ) :
    runSt (x >>= f) s τ = runSt (f (runSt x s τ).1.1) (runSt x s τ).1.2 (runSt x s τ).2 := rfl

@[simp] theorem runStGet (s : Service) (τ : σ) : runSt (get : SvcM (StateM σ) Service) s τ = ((s,s),τ) := rfl

@[simp] theorem runStConfig (s : Service) (τ : σ) :
    runSt (config : SvcM (StateM σ) Config.Bundler) s τ = ((s.settings.config,s),τ) := rfl

@[simp] theorem runStExcept (x : SvcE (StateM σ) α) (s : Service) (τ : σ) : runSt x.run s τ = runIn x s τ := rfl

@[simp] theorem runStModifyPool (f : Mempool.Pool → Mempool.Pool) (s : Service) (τ : σ) :
    runSt (modifyPool f : SvcM (StateM σ) Unit) s τ = (((),{ s with pool := f s.pool }),τ) := rfl

@[simp] theorem runStLog (level : Log.Level) (msg : String) (kv : List String) (s : Service) (τ : σ) :
    runSt (log level msg kv : SvcM (StateM σ) Unit) s τ =
      (((),{ s with journal := s.logger.write s.journal level msg kv }),τ) := rfl

theorem runStRevertAll {ι : Type} (l : List ι) (f : ι → Hash) (s : Service) (τ : σ) :
    runSt (forIn l PUnit.unit fun x _ => do
        revertToPending (f x)
        pure (ForInStep.yield PUnit.unit) : SvcM (StateM σ) PUnit) s τ =
      ((PUnit.unit,{ s with pool := l.foldl (fun q x => q.revert (f x)) s.pool }),τ) := by
  induction l generalizing s with
  | nil => rfl
  | cons x rest ih =>
    simp only [List.forIn_cons, runStBind]
    exact ih _

@[simp] theorem runInConfig (s : Service) (τ : σ) :
    runIn (config : SvcE (StateM σ) Config.Bundler) s τ = ((.ok s.settings.config,s),τ) := rfl

@[simp] theorem runInSet (s s' : Service) (τ : σ) : runIn (set s' : SvcE (StateM σ) PUnit) s τ = ((.ok ⟨⟩,s'),τ) :=
  rfl

@[simp] theorem runInModify (f : Service → Service) (s : Service) (τ : σ) :
    runIn (modify f : SvcE (StateM σ) PUnit) s τ = ((.ok ⟨⟩,f s),τ) := rfl

@[simp] theorem runInMetric (x : Metrics.Metric) (s : Service) (τ : σ) :
    runIn (metric x : SvcE (StateM σ) Unit) s τ = ((.ok (),s.noteMetric x),τ) := rfl

@[simp] theorem noteMetricPool (s : Service) (x : Metrics.Metric) : (s.noteMetric x).pool = s.pool := by
  unfold noteMetric
  split <;> rfl

@[simp] theorem noteMetricRep (s : Service) (x : Metrics.Metric) : (s.noteMetric x).rep = s.rep := by
  unfold noteMetric
  split <;> rfl

@[simp] theorem noteMetricReverts (s : Service) (x : Metrics.Metric) : (s.noteMetric x).reverts = s.reverts := by
  unfold noteMetric
  split <;> rfl

@[simp] theorem noteMetricNonces (s : Service) (x : Metrics.Metric) : (s.noteMetric x).nonces = s.nonces := by
  unfold noteMetric
  split <;> rfl

@[simp] theorem runInFreshBundleId (s : Service) (τ : σ) :
    runIn (freshBundleId : SvcE (StateM σ) String) s τ =
      ((.ok (Ulid.encode (s.settings.now.unixMillis * 2 ^ 80 + s.bundlesMade + 1)),
        { s with bundlesMade := s.bundlesMade + 1 }),τ) := rfl

@[simp] theorem runInLiftSt (x : SvcM (StateM σ) α) (s : Service) (τ : σ) :
    runIn (liftM x : SvcE (StateM σ) α) s τ = ((.ok (runSt x s τ).1.1,(runSt x s τ).1.2),(runSt x s τ).2) := rfl

@[simp] theorem runStLift (x : StateM σ α) (s : Service) (τ : σ) :
    runSt (liftM x : SvcM (StateM σ) α) s τ = (((x.run τ).1,s),(x.run τ).2) := rfl

@[simp] theorem runStModify (f : Service → Service) (s : Service) (τ : σ) :
    runSt (modify f : SvcM (StateM σ) PUnit) s τ = ((⟨⟩,f s),τ) := rfl

@[simp] theorem runStMetric (x : Metrics.Metric) (s : Service) (τ : σ) :
    runSt (metric x : SvcM (StateM σ) Unit) s τ = (((),s.noteMetric x),τ) := rfl

@[simp] theorem runStModifyRep (f : Reputation.Tracker → Reputation.Tracker) (s : Service) (τ : σ) :
    runSt (modifyRep f : SvcM (StateM σ) Unit) s τ = (((),{ s with rep := f s.rep }),τ) := rfl

@[simp] theorem runInRemoveFromPool (h : Hash) (s : Service) (τ : σ) :
    runIn (removeFromPool h : SvcE (StateM σ) Unit) s τ = ((.ok (),{ s with pool := (s.pool.remove h).1 }),τ) := rfl

@[simp] theorem runInTryCatch (x : SvcE (StateM σ) α) (h : Fault → SvcE (StateM σ) α) (s : Service) (τ : σ) :
    runIn (tryCatch x h) s τ = match runIn x s τ with
      | ((.ok a,s'),τ') => ((.ok a,s'),τ')
      | ((.error e,s'),τ') => runIn (h e) s' τ' := by
  unfold runIn
  rw [ExceptT.run_tryCatch, StateT.run_bind, StateT.run_bind]
  rcases ((x.run).run s).run τ with ⟨⟨_ | a,s'⟩,τ'⟩ <;> rfl

theorem runInRevertAll {ι : Type} (l : List ι) (f : ι → Hash) (s : Service) (τ : σ) :
    runIn (forIn l PUnit.unit fun x _ => do
        revertToPending (f x)
        pure (ForInStep.yield PUnit.unit) : SvcE (StateM σ) PUnit) s τ =
      ((.ok PUnit.unit,{ s with pool := l.foldl (fun q x => q.revert (f x)) s.pool }),τ) := by
  induction l generalizing s with
  | nil => rfl
  | cons x rest ih =>
    simp only [List.forIn_cons, runInBind]
    exact ih _

theorem runInRevertWhere {ι : Type} (l : List ι) (keep : ι → Bool) (f : ι → Hash) (s : Service) (τ : σ) :
    runIn (forIn l PUnit.unit fun x _ => if keep x = true then do
        revertToPending (f x)
        pure (ForInStep.yield PUnit.unit) else pure (ForInStep.yield PUnit.unit) : SvcE (StateM σ) PUnit) s τ =
      ((.ok PUnit.unit,{ s with pool := (l.filter keep).foldl (fun q x => q.revert (f x)) s.pool }),τ) := by
  induction l generalizing s with
  | nil => rfl
  | cons x rest ih =>
    by_cases kept : keep x = true
    · simp only [List.forIn_cons, kept, if_true, runInBind, List.filter_cons_of_pos kept, List.foldl_cons]
      exact ih _
    · simp only [List.forIn_cons, kept, runInBind, List.filter_cons_of_neg kept]
      exact ih _

def KeepsPool (x : SvcE (StateM σ) α) : Prop := ∀ s τ, (runIn x s τ).1.2.pool = s.pool

def Quiet (x : SvcE (StateM σ) α) : Prop := ∀ s τ, ∃ a s' τ', runIn x s τ = ((.ok a,s'),τ') ∧ s'.pool = s.pool

theorem KeepsPool.bind {x : SvcE (StateM σ) α} {f : α → SvcE (StateM σ) β} (first : KeepsPool x)
    (rest : ∀ a, KeepsPool (f a)) : KeepsPool (x >>= f) := by
  intro s τ
  have kept := first s τ
  rw [runInBind]
  rcases ran : runIn x s τ with ⟨⟨_ | a,s'⟩,τ'⟩ <;> rw [ran] at kept
  · exact kept
  · exact (rest a s' τ').trans kept

theorem KeepsPool.ofPure (a : α) : KeepsPool (pure a : SvcE (StateM σ) α) := fun _ _ => rfl

namespace Quiet

theorem peel {x : SvcE (StateM σ) α} {f : α → SvcE (StateM σ) β} {s : Service} {τ : σ}
    {out : (Except Fault β × Service) × σ} (quiet : Quiet x) (run : runIn (x >>= f) s τ = out) :
    ∃ a s' τ', s'.pool = s.pool ∧ runIn (f a) s' τ' = out := by
  obtain ⟨a,s',τ',ran,pool⟩ := quiet s τ
  exact ⟨a,s',τ',pool,by rw [← run, runInBind, ran]⟩

theorem keepsPool {x : SvcE (StateM σ) α} (quiet : Quiet x) : KeepsPool x := by
  intro s τ
  obtain ⟨a,s',τ',ran,pool⟩ := quiet s τ
  rw [ran]
  exact pool

theorem ofGet : Quiet (get : SvcE (StateM σ) Service) := fun s τ => ⟨s,s,τ,rfl,rfl⟩

theorem ofConfig : Quiet (config : SvcE (StateM σ) Config.Bundler) := fun s τ => ⟨_,s,τ,rfl,rfl⟩

theorem ofFreshBundleId : Quiet (freshBundleId : SvcE (StateM σ) String) := fun _ τ => ⟨_,_,τ,rfl,rfl⟩

theorem ofLog (level : Log.Level) (msg : String) (kv : List String) : Quiet (log level msg kv : SvcE (StateM σ) Unit) :=
  fun _ τ => ⟨(),_,τ,rfl,rfl⟩

theorem ofMetric (x : Metrics.Metric) : Quiet (metric x : SvcE (StateM σ) Unit) :=
  fun s τ => ⟨(),_,τ,rfl,s.noteMetricPool x⟩

theorem ofLift (x : StateM σ α) : Quiet (liftM x : SvcE (StateM σ) α) := fun s _ => ⟨_,s,_,rfl,rfl⟩

theorem ofSt {x : SvcM (StateM σ) α} (keeps : ∀ s τ, (runSt x s τ).1.2.pool = s.pool) :
    Quiet (liftM x : SvcE (StateM σ) α) :=
  fun s τ => ⟨_,_,_,runInLiftSt x s τ,keeps s τ⟩

end Quiet

end Stateful

end Erc4337.Service
