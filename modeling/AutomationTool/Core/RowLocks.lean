import AutomationTool.Core.LTS

/-!
# Transactions that lock rows

A transaction first looks at the store without a lock, then locks rows one after the
other, each with what the row holds once it has the lock, and at last writes and commits,
or gives up. Any number of transactions run at once. What one writes becomes visible when
it commits; until then nobody else locks, or changes, a row that it has locked. A row that
is not there cannot be locked, and the transaction gives up.

* `Txn.run`: the transaction alone, after its first look.
* `commit_atomic`: a transaction that commits does what it would do alone in the state it
  commits in, whatever ran beside it.
* `serving_inductive`: so an invariant has to be shown for transactions that run alone,
  after a look at an earlier state.
-/
namespace AutomationTool

/-- The rows of a store, by key. -/
structure Rows (κ σ : Type) where
  Row : κ → Type
  read : (k : κ) → σ → Option (Row k)

variable {κ σ α ε ι : Type} (R : Rows κ σ)

inductive Txn (α ε : Type) where
  /-- `SELECT … FOR UPDATE` of one row. -/
  | lock (key : κ) (missing : ε) (next : R.Row key → Txn α ε)
  /-- The writes; `none` is a violated constraint. -/
  | commit (result : α) (violated : ε) (write : σ → Option σ)
  | reject (error : ε)

namespace Txn

variable {R}

/-- The transaction alone. -/
def run : Txn R α ε → σ → Except ε (α × σ)
  | .lock key missing next, s =>
    match R.read key s with
    | none => .error missing
    | some row => (next row).run s
  | .commit result violated write, s =>
    match write s with
    | none => .error violated
    | some s' => .ok (result, s')
  | .reject error, _ => .error error

@[simp] theorem run_lock {key : κ} {missing : ε} {next : R.Row key → Txn R α ε} {s : σ} {x : α × σ} :
    (lock key missing next).run s = .ok x ↔
      ∃ row, R.read key s = some row ∧ (next row).run s = .ok x := by
  rw [run]
  cases R.read key s <;> simp

@[simp] theorem run_commit {result : α} {violated : ε} {write : σ → Option σ} {s s' : σ} {r : α} :
    (commit (R := R) result violated write).run s = .ok (r, s') ↔
      result = r ∧ write s = some s' := by
  rw [run]
  cases write s <;> simp

@[simp] theorem run_reject {error : ε} {s : σ} {x : α × σ} :
    (reject (R := R) error).run s = .ok x ↔ False := by
  simp [run]

/-- With `held` locked and the rows as they are in `s`, the transaction `t` has come to `u`. -/
inductive Reached (s : σ) (t : Txn R α ε) : List κ → Txn R α ε → Prop where
  | here : Reached s t [] t
  | lock {held : List κ} {key : κ} {missing : ε} {next : R.Row key → Txn R α ε} {row : R.Row key}
      (h : Reached s t held (.lock key missing next)) (hr : R.read key s = some row) :
      Reached s t (key :: held) (next row)

variable {s s' : σ} {t u : Txn R α ε} {held : List κ}

theorem Reached.run_eq (h : Reached s t held u) : t.run s = u.run s := by
  induction h with
  | here => rfl
  | lock _ hr ih =>
    rw [ih, run]
    simp only [hr]

/-- Only the locked rows were looked at. -/
theorem Reached.stable (h : Reached s t held u) (hs : ∀ k ∈ held, R.read k s' = R.read k s) :
    Reached s' t held u := by
  induction h with
  | here => exact .here
  | lock _ hr ih =>
    refine .lock (ih fun k hk => hs k (List.mem_cons_of_mem _ hk)) ?_
    rw [hs _ List.mem_cons_self, hr]

end Txn

/-! ## Many at once -/

/-- A running transaction. `seen` is the state of its first look. -/
structure Client (α ε ι : Type) where
  request : ι
  seen : σ
  todo : Txn R α ε
  held : List κ

structure Server (α ε ι : Type) where
  store : σ
  clients : List (Client R α ε ι)

inductive ServerEvent (α ε ι : Type) where
  | begun (request : ι)
  /-- A row was locked, or found missing. -/
  | locked (i : Nat)
  | ended (i : Nat) (request : ι) (outcome : Except ε α)
  | lost (i : Nat)
  | outside

variable {R}

/-- Nobody but `i` has a lock on a row that differs. -/
def Server.Free (S : Server R α ε ι) (i : Option Nat) (s' : σ) : Prop :=
  ∀ k, R.read k s' ≠ R.read k S.store → ∀ j d, some j ≠ i → S.clients[j]? = some d → k ∉ d.held

inductive Server.Step (program : ι → σ → Txn R α ε) (outside : σ → σ → Prop) :
    Server R α ε ι → ServerEvent α ε ι → Server R α ε ι → Prop where
  | begun {S : Server R α ε ι} (q : ι) : Step program outside S (.begun q)
      { S with clients := S.clients ++ [⟨q, S.store, program q S.store, []⟩] }
  | locked {S : Server R α ε ι} {i : Nat} {c : Client R α ε ι} {key : κ} {missing : ε}
      {next : R.Row key → Txn R α ε} {row : R.Row key} (hc : S.clients[i]? = some c)
      (ht : c.todo = .lock key missing next)
      (hfree : ∀ j d, j ≠ i → S.clients[j]? = some d → key ∉ d.held)
      (hr : R.read key S.store = some row) : Step program outside S (.locked i)
      { S with clients := S.clients.set i { c with todo := next row, held := key :: c.held } }
  | missing {S : Server R α ε ι} {i : Nat} {c : Client R α ε ι} {key : κ} {missing : ε}
      {next : R.Row key → Txn R α ε} (hc : S.clients[i]? = some c)
      (ht : c.todo = .lock key missing next) (hr : R.read key S.store = none) :
      Step program outside S (.locked i)
      { S with clients := S.clients.set i { c with todo := .reject missing } }
  | committed {S : Server R α ε ι} {i : Nat} {c : Client R α ε ι} {result : α} {violated : ε}
      {write : σ → Option σ} {s' : σ} (hc : S.clients[i]? = some c)
      (ht : c.todo = .commit result violated write) (hw : write S.store = some s')
      (hfree : S.Free (some i) s') : Step program outside S (.ended i c.request (.ok result))
      ⟨s', S.clients.eraseIdx i⟩
  | violated {S : Server R α ε ι} {i : Nat} {c : Client R α ε ι} {result : α} {violated : ε}
      {write : σ → Option σ} (hc : S.clients[i]? = some c)
      (ht : c.todo = .commit result violated write) (hw : write S.store = none) :
      Step program outside S (.ended i c.request (.error violated))
      { S with clients := S.clients.eraseIdx i }
  | rejected {S : Server R α ε ι} {i : Nat} {c : Client R α ε ι} {error : ε}
      (hc : S.clients[i]? = some c) (ht : c.todo = .reject error) :
      Step program outside S (.ended i c.request (.error error))
      { S with clients := S.clients.eraseIdx i }
  /-- The connection breaks, and the transaction is rolled back. -/
  | lost {S : Server R α ε ι} (i : Nat) : Step program outside S (.lost i)
      { S with clients := S.clients.eraseIdx i }
  | outside {S : Server R α ε ι} {s' : σ} (h : outside S.store s') (hfree : S.Free none s') :
      Step program outside S .outside { S with store := s' }

def serverSystem (start : σ) (program : ι → σ → Txn R α ε) (outside : σ → σ → Prop) :
    LTS (Server R α ε ι) (ServerEvent α ε ι) where
  init S := S = ⟨start, []⟩
  step := Server.Step program outside

/-! ## One after the other -/

/-- What a transaction that ran alone keeps. `later` is what all of them keep of the state
that one of them looked at before. -/
structure Keeps (program : ι → σ → Txn R α ε) (outside : σ → σ → Prop) (inv : σ → Prop)
    (later : σ → σ → Prop) : Prop where
  refl : ∀ s, later s s
  trans : ∀ {a b c}, later a b → later b c → later a c
  run : ∀ {q seen s r s'}, inv s → later seen s → (program q seen).run s = .ok (r, s') →
    inv s' ∧ later s s'
  outside : ∀ {s s'}, inv s → outside s s' → inv s' ∧ later s s'

/-- Where a running transaction stands. -/
structure Client.Ok (program : ι → σ → Txn R α ε) (later : σ → σ → Prop) (s : σ)
    (c : Client R α ε ι) : Prop where
  later : later c.seen s
  todo : (∃ e, c.todo = .reject e) ∨ (program c.request c.seen).Reached s c.held c.todo

structure Server.Ok (program : ι → σ → Txn R α ε) (inv : σ → Prop) (later : σ → σ → Prop)
    (S : Server R α ε ι) : Prop where
  inv : inv S.store
  clients : ∀ c ∈ S.clients, c.Ok program later S.store

variable {program : ι → σ → Txn R α ε} {outside : σ → σ → Prop} {inv : σ → Prop}
  {later : σ → σ → Prop} {S S' : Server R α ε ι}

/-- A transaction that commits does what it would do alone. -/
theorem commit_atomic {i : Nat} {q : ι} {r : α} (h : S.Ok program inv later)
    (hs : Server.Step program outside S (.ended i q (.ok r)) S') :
    ∃ seen, later seen S.store ∧ (program q seen).run S.store = .ok (r, S'.store) := by
  cases hs with
  | committed hc ht hw hfree =>
    rename_i c violated write s'
    obtain ⟨hlater, ⟨e, he⟩ | hreached⟩ := h.clients c (List.mem_of_getElem? hc)
    · rw [ht] at he
      cases he
    · refine ⟨c.seen, hlater, ?_⟩
      rw [hreached.run_eq, ht, Txn.run]
      simp only [hw]

/-- A transaction that does not commit changes nothing. -/
theorem error_unchanged {i : Nat} {q : ι} {e : ε}
    (hs : Server.Step program outside S (.ended i q (.error e)) S') : S'.store = S.store := by
  cases hs <;> rfl

theorem Client.Ok.stable {c : Client R α ε ι} {s s' : σ} (K : Keeps program outside inv later)
    (h : c.Ok program later s) (hl : later s s') (hs : ∀ k ∈ c.held, R.read k s' = R.read k s) :
    c.Ok program later s' where
  later := K.trans h.later hl
  todo := h.todo.imp_right fun hr => hr.stable hs

/-- The others keep what they hold. -/
theorem Server.Ok.others (K : Keeps program outside inv later) (h : S.Ok program inv later)
    {i : Option Nat} {s' : σ} (hfree : S.Free i s') (hl : later S.store s') {j : Nat}
    {d : Client R α ε ι} (hj : some j ≠ i) (hd : S.clients[j]? = some d) : d.Ok program later s' := by
  refine (h.clients d (List.mem_of_getElem? hd)).stable K hl fun k hk => ?_
  apply Classical.byContradiction
  intro hne
  exact hfree k hne j d hj hd hk

theorem exists_of_mem_eraseIdx {β : Type} {l : List β} {i : Nat} {x : β} (h : x ∈ l.eraseIdx i) :
    ∃ j, j ≠ i ∧ l[j]? = some x := by
  obtain ⟨j, hne, hj⟩ := List.mem_eraseIdx_iff_getElem?.1 h
  exact ⟨j, hne, hj⟩

theorem serving_ok (K : Keeps program outside inv later) {e : ServerEvent α ε ι}
    (h : S.Ok program inv later) (hs : Server.Step program outside S e S') :
    S'.Ok program inv later ∧ later S.store S'.store := by
  have hsub : ∀ i, ∀ c ∈ S.clients.eraseIdx i, c.Ok program later S.store :=
    fun i c hc => h.clients c (List.mem_of_mem_eraseIdx hc)
  cases hs with
  | begun q =>
    refine ⟨⟨h.inv, fun c hc => ?_⟩, K.refl _⟩
    rcases List.mem_append.1 hc with hc | hc
    · exact h.clients c hc
    · rw [List.mem_singleton.1 hc]
      exact ⟨K.refl _, .inr .here⟩
  | @locked i c key missing next row hc ht hfree hr =>
    refine ⟨⟨h.inv, fun d hd => ?_⟩, K.refl _⟩
    rcases List.mem_or_eq_of_mem_set hd with hd | rfl
    · exact h.clients d hd
    · obtain ⟨hlater, ⟨e, he⟩ | hreached⟩ := h.clients c (List.mem_of_getElem? hc)
      · rw [ht] at he
        cases he
      · rw [ht] at hreached
        exact ⟨hlater, .inr (hreached.lock hr)⟩
  | @missing i c key missing next hc ht hr =>
    refine ⟨⟨h.inv, fun d hd => ?_⟩, K.refl _⟩
    rcases List.mem_or_eq_of_mem_set hd with hd | rfl
    · exact h.clients d hd
    · exact ⟨(h.clients c (List.mem_of_getElem? hc)).later, .inl ⟨missing, rfl⟩⟩
  | @committed i c result violated write s' hc ht hw hfree =>
    obtain ⟨seen, hlater, hrun⟩ :=
      commit_atomic h (@Server.Step.committed _ _ _ _ _ _ _ outside _ _ _ _ _ _ _ hc ht hw hfree)
    obtain ⟨hinv, hl⟩ := K.run h.inv hlater hrun
    refine ⟨⟨hinv, fun d hd => ?_⟩, hl⟩
    obtain ⟨j, hne, hj⟩ := exists_of_mem_eraseIdx hd
    exact h.others K hfree hl (by simpa using hne) hj
  | violated | rejected => exact ⟨⟨h.inv, hsub _⟩, K.refl _⟩
  | lost i => exact ⟨⟨h.inv, hsub i⟩, K.refl _⟩
  | @outside s' ho hfree =>
    obtain ⟨hinv, hl⟩ := K.outside h.inv ho
    refine ⟨⟨hinv, fun d hd => ?_⟩, hl⟩
    obtain ⟨j, hj⟩ := List.mem_iff_getElem?.1 hd
    exact h.others K hfree hl (by simp) hj

theorem serving_inductive (K : Keeps program outside inv later) {start : σ} (h0 : inv start) :
    (serverSystem start program outside).Inductive (Server.Ok program inv later) where
  init S hS := by
    change S = _ at hS
    subst hS
    exact ⟨h0, fun c hc => nomatch hc⟩
  step S e S' h hs := (serving_ok K h hs).1

/-- A request that nothing runs beside gets its answer. -/
theorem serving_alone {start s s' : σ} {q : ι} {r : α} (h : (program q s).run s = .ok (r, s')) :
    ∃ es, (serverSystem start program outside).Run ⟨s, []⟩ (es ++ [.ended 0 q (.ok r)]) ⟨s', []⟩ := by
  have hone : ∀ (seen : σ) (t : Txn R α ε) (held : List κ), t.run s = .ok (r, s') →
      ∃ es, (serverSystem start program outside).Run ⟨s, [⟨q, seen, t, held⟩]⟩
        (es ++ [.ended 0 q (.ok r)]) ⟨s', []⟩ := by
    intro seen t
    induction t with
    | lock key missing next ih =>
      intro held ht
      obtain ⟨row, hr, ht⟩ := Txn.run_lock.1 ht
      obtain ⟨es, hes⟩ := ih row (key :: held) ht
      refine ⟨.locked 0 :: es, .cons (.locked (i := 0) rfl rfl ?_ hr) hes⟩
      intro j d hj hd
      cases j with
      | zero => exact absurd rfl hj
      | succ j => cases hd
    | commit result violated write =>
      intro held ht
      obtain ⟨rfl, hw⟩ := Txn.run_commit.1 ht
      have hs : Server.Step program outside
          ⟨s, [⟨q, seen, .commit result violated write, held⟩]⟩ (.ended 0 q (.ok result)) ⟨s', []⟩ := by
        refine .committed (S := ⟨s, [⟨q, seen, .commit result violated write, held⟩]⟩) (i := 0)
          rfl rfl hw ?_
        intro k _ j d hj hd
        cases j with
        | zero => exact absurd rfl hj
        | succ j => cases hd
      exact ⟨[], .single hs⟩
    | reject error =>
      intro held ht
      exact absurd ht (by simp)
  obtain ⟨es, hes⟩ := hone s (program q s) [] h
  exact ⟨.begun q :: es, .cons (.begun q) hes⟩

end AutomationTool
