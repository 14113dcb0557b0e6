import Schemata.Proofs.Failure
import Schemata.Recording
import Schemata.Store.Session

/-!
Sessions over a recording handle. An operation is refused before anything is sent, or it sends one
statement, which is logged. What it gives is made of the handle's answer to that statement, and the
answer depends on nothing but the text of the statement. So a session is its operations side by
side: none has an influence on another.
-/
namespace Schemata

variable {α : Type} {responses : List Recording.Response}

/-! ### Requests -/

namespace Request

/-- What a request makes of the rows that a handle has for it. -/
def outcome (answer : Except DbError (List Record)) : Request α → Except StoreError α
  | .rows _ _ read => (answer.map read).mapError .database
  | .first _ _ read => (answer.map fun rows => read rows.head?).mapError .database

theorem outcome_error (r : Request α) (e : DbError) :
    r.outcome (.error e) = .error (.database e) := by
  cases r <;> rfl

theorem exists_outcome_ok (r : Request α) (rows : List Record) :
    ∃ a, r.outcome (.ok rows) = .ok a := by
  cases r <;> exact ⟨_, rfl⟩

theorem send_recording (r : Request α) (log : List Statement) :
    r.send (Recording.database responses) log =
      (r.outcome (Recording.answer responses r.statement.sql), log ++ [r.statement]) := by
  cases r with
  | rows sql params read => rfl
  | first sql params read =>
    simp only [send, outcome, statement, Recording.database]
    cases Recording.answer responses sql <;> rfl

/-- A request that has not been made sends nothing. -/
theorem sendIfMade_recording (r : Except StoreError (Request α)) (log : List Statement) :
    sendIfMade (Recording.database responses) r log =
      (r.bind fun q => q.outcome (Recording.answer responses q.statement.sql),
        log ++ (r.map (·.statement)).toOption.toList) := by
  cases r with
  | error e => simp [sendIfMade, Except.bind, Except.map, Except.toOption]
  | ok q => exact q.send_recording log

end Request

/-! ### What operations ask -/

/-- The value that an operation passes on as a parameter. -/
def Operation.value? : Operation → Option Json
  | .getBy _ value | .getManyBy _ value | .deleteBy _ value | .call _ value => some value
  | .getAll | .add _ | .provision | .unprovision => none

theorem Accessor.statement_call (a : Accessor) (value : Json) :
    (a.call value).statement.kind = (if a.plan.role.returnsMany then .rows else .first) ∧
      (a.call value).statement.params = [value] := by
  unfold call
  split <;> exact ⟨rfl, rfl⟩

namespace Store

/-- First rows are asked for where there is one at most, batches where the table itself is meant. -/
def kindOf (t : Store) : Operation → StatementKind
  | .getBy .. | .add _ => .first
  | .call accessor _ =>
    if (t.accessor? accessor).any (·.plan.role.returnsMany) then .rows else .first
  | .getAll | .getManyBy .. | .deleteBy .. => .rows
  | .provision | .unprovision => .batch

/-- The operation names a field that the format does not have, or an accessor that the store does
not have. -/
def Refuses (t : Store) : Operation → StoreError → Prop
  | .getBy field _, e | .getManyBy field _, e | .deleteBy field _, e =>
    ¬ t.format.hasField field ∧ e = .unknownField t.format.name field
  | .add record, e =>
    ∃ key ∈ Dict.keys record, ¬ t.format.hasField key ∧ e = .unknownField t.format.name key
  | .call accessor _, e =>
    (∀ a ∈ t.accessors, a.plan.name ≠ accessor) ∧ e = .unknownFunction t.format.name accessor
  | .getAll, _ | .provision, _ | .unprovision, _ => False

/-- What an operation gives when it is the only one. -/
def outcome (t : Store) (responses : List Recording.Response) (op : Operation) :
    Except StoreError Outcome :=
  (t.perform (Recording.database responses) op []).1

/-- The statement `st` is right for the operation, and `outcome` is made of its answer. -/
structure Answers (t : Store) (responses : List Recording.Response) (op : Operation)
    (st : Statement) (outcome : Except StoreError Outcome) : Prop where
  kind : st.kind = t.kindOf op
  params : ∀ value ∈ op.value?, st.params = [value]
  fails : ∀ e, Recording.answer responses st.sql = .error e → outcome = .error (.database e)
  succeeds : ∀ rows, Recording.answer responses st.sql = .ok rows → ∃ out, outcome = .ok out

variable {t : Store}

/-- The log of an operation before has no influence on its outcome, and it grows by what is
issued. -/
theorem perform_recording (t : Store) (op : Operation) (log : List Statement) :
    t.perform (Recording.database responses) op log =
      (t.outcome responses op, log ++ (t.issued op).toOption.toList) := by
  cases op with
  | getAll => simp [outcome, perform, issued, Request.send_recording, Except.toOption]
  | provision | unprovision => rfl
  | getBy | getManyBy | add | deleteBy | call =>
    simp [outcome, perform, issued, Request.sendIfMade_recording]

/-! ### Refusals -/

theorem column_eq_error_iff {field : String} {e : StoreError} :
    t.column field = .error e ↔
      ¬ t.format.hasField field ∧ e = .unknownField t.format.name field := by
  unfold column DataFormat.hasField
  cases t.format.field? field <;> simp [eq_comm]

theorem add_eq_error {record : Record} {e : StoreError} (h : t.add record = .error e) :
    ∃ key ∈ Dict.keys record, ¬ t.format.hasField key ∧ e = .unknownField t.format.name key := by
  unfold add at h
  split at h
  · rename_i key hk
    have hf := List.find?_some hk
    exact ⟨key, List.mem_of_find?_eq_some hk, by simpa using hf, (Except.error.inj h).symm⟩
  · cases h

theorem hasField_of_add {record : Record} {r : Request (Option Record)} (h : t.add record = .ok r) :
    ∀ key ∈ Dict.keys record, t.format.hasField key := by
  unfold add at h
  split at h
  · cases h
  · rename_i hk
    intro key hm
    simpa using List.find?_eq_none.mp hk key hm

theorem call_eq_error_iff {accessor : String} {value : Json} {e : StoreError} :
    t.call accessor value = .error e ↔
      (∀ a ∈ t.accessors, a.plan.name ≠ accessor) ∧
        e = .unknownFunction t.format.name accessor := by
  unfold call accessor?
  cases ha : t.accessors.find? (·.plan.name == accessor) with
  | none =>
    have hno : ∀ a ∈ t.accessors, a.plan.name ≠ accessor := by simpa using ha
    exact ⟨fun h => ⟨hno, (Except.error.inj h).symm⟩, fun h => h.2 ▸ rfl⟩
  | some a =>
    have hn : a.plan.name = accessor := by simpa using List.find?_some ha
    have hex : ¬ ∀ a ∈ t.accessors, a.plan.name ≠ accessor :=
      fun hno => hno a (List.mem_of_find?_eq_some ha) hn
    simp [hex]

theorem lookup_eq_error_iff {field : String} {e : StoreError} {f : String → Request α} :
    (t.column field >>= fun c => pure (f c)) = .error e ↔ t.column field = .error e := by
  cases t.column field <;> simp [pure, Except.pure]

/-- What is not issued is refused with the reason that there is. -/
theorem refuses_of_issued {op : Operation} {e : StoreError} (h : t.issued op = .error e) :
    t.Refuses op e := by
  cases op with
  | getAll | provision | unprovision => cases h
  | getBy | getManyBy | deleteBy =>
    rw [issued, map_eq_error_iff] at h
    exact column_eq_error_iff.mp (lookup_eq_error_iff.mp h)
  | add => exact add_eq_error (map_eq_error_iff.mp h)
  | call => exact call_eq_error_iff.mp (map_eq_error_iff.mp h)

theorem not_refuses_of_issued {op : Operation} {st : Statement} (h : t.issued op = .ok st)
    (e : StoreError) : ¬ t.Refuses op e := by
  cases op with
  | getAll | provision | unprovision => exact id
  | getBy | getManyBy | deleteBy =>
    intro hr
    obtain ⟨q, hq, -⟩ := map_eq_ok_iff.mp h
    have hc := hq.symm.trans (lookup_eq_error_iff.mpr (column_eq_error_iff.mpr hr))
    exact absurd hc (by simp)
  | add record =>
    rintro ⟨key, hk, hno, -⟩
    obtain ⟨q, hq, -⟩ := map_eq_ok_iff.mp h
    exact hno (hasField_of_add hq key hk)
  | call accessor value =>
    intro hr
    obtain ⟨q, hq, -⟩ := map_eq_ok_iff.mp h
    exact absurd (hq.symm.trans (call_eq_error_iff.mpr hr)) (by simp)

/-! ### Answers -/

theorem outcome_of_refused {op : Operation} {e : StoreError} (h : t.issued op = .error e) :
    t.outcome responses op = .error e := by
  cases op with
  | getAll | provision | unprovision => cases h
  | getBy | getManyBy | add | deleteBy | call =>
    rw [issued, map_eq_error_iff] at h
    simp [outcome, perform, h, Request.sendIfMade, Except.map]

theorem kind_of_add {record : Record} {q : Request (Option Record)} (h : t.add record = .ok q) :
    q.statement.kind = .first := by
  unfold add at h
  split at h
  · cases h
  · obtain rfl := Except.ok.inj h
    rfl

theorem of_call_eq_ok {accessor : String} {value : Json} {q : Request Related}
    (h : t.call accessor value = .ok q) :
    ∃ a, t.accessor? accessor = some a ∧ q = a.call value := by
  unfold call at h
  split at h
  · exact ⟨_, ‹_›, (Except.ok.inj h).symm⟩
  · cases h

/-- A request of the right kind and parameter gives what its answer gives. -/
theorem answers_of_made {op : Operation} {r : Except StoreError (Request α)} {q : Request α}
    {f : α → Outcome}
    (ho : t.outcome responses op =
      (Request.sendIfMade (Recording.database responses) r []).1.map f)
    (hq : r = .ok q) (hk : q.statement.kind = t.kindOf op)
    (hp : ∀ value ∈ op.value?, q.statement.params = [value]) :
    t.Answers responses op q.statement (t.outcome responses op) := by
  rw [hq, Request.sendIfMade_recording] at ho
  refine ⟨hk, hp, fun e he => ?_, fun rows hr => ?_⟩
  · rw [ho, Except.bind, he, q.outcome_error]
    rfl
  · obtain ⟨a, ha⟩ := q.exists_outcome_ok rows
    rw [ho, Except.bind, hr, ha]
    exact ⟨f a, rfl⟩

theorem answers_of_batch {op : Operation} {sql : String} (hk : t.kindOf op = .batch)
    (hv : op.value? = none)
    (ho : t.outcome responses op =
      (((Recording.answer responses sql).map fun _ => ()).mapError StoreError.database).map
        fun _ => Outcome.done) :
    t.Answers responses op ⟨.batch, sql, []⟩ (t.outcome responses op) := by
  refine ⟨hk.symm, by simp [hv], fun e he => ?_, fun rows hr => ?_⟩
  · rw [ho, he]
    rfl
  · rw [ho, hr]
    exact ⟨.done, rfl⟩

theorem answers_of_issued {op : Operation} {st : Statement} (h : t.issued op = .ok st) :
    t.Answers responses op st (t.outcome responses op) := by
  cases op with
  | getAll =>
    obtain rfl := Except.ok.inj h
    exact answers_of_made (r := .ok t.getAll) rfl rfl rfl (by simp [Operation.value?])
  | getBy field value | getManyBy field value | deleteBy field value =>
    obtain ⟨q, hq, rfl⟩ := map_eq_ok_iff.mp h
    refine answers_of_made rfl hq ?_ ?_
    all_goals
      obtain ⟨c, -, hq⟩ := bind_eq_ok_iff.mp hq
      obtain rfl := Except.ok.inj hq
      simp [Request.statement, kindOf, Operation.value?]
  | add record =>
    obtain ⟨q, hq, rfl⟩ := map_eq_ok_iff.mp h
    exact answers_of_made rfl hq (kind_of_add hq) (by simp [Operation.value?])
  | call accessor value =>
    obtain ⟨q, hq, rfl⟩ := map_eq_ok_iff.mp h
    obtain ⟨a, ha, rfl⟩ := of_call_eq_ok hq
    obtain ⟨hk, hp⟩ := a.statement_call value
    refine answers_of_made rfl hq ?_ ?_
    · rw [hk, kindOf, ha]
      rfl
    · simpa [Operation.value?] using hp
  | provision | unprovision =>
    obtain rfl := Except.ok.inj h
    exact answers_of_batch rfl rfl rfl

end Store

/-- A session is its operations side by side. -/
theorem session_eq (steps : List (Store × Operation)) (log : List Statement) :
    session (Recording.database responses) steps log =
      (steps.map fun x => x.1.outcome responses x.2,
        log ++ steps.filterMap fun x => (x.1.issued x.2).toOption) := by
  -- each step leaves a longer log behind, so the log is any log
  induction steps generalizing log with
  | nil => simp [session]
  | cons x steps ih =>
    obtain ⟨t, op⟩ := x
    rw [session, t.perform_recording op log]
    simp only [ih, List.map_cons, List.append_assoc]
    cases hi : t.issued op <;> simp [hi, Except.toOption]

/-- In a session over a recording handle the outcome of each operation is the one that it has alone,
and the log grows by the statements that the operations issue. An operation that names a field or an
accessor that does not exist is refused and leaves the log as it is; any other adds one statement to
it, and fails exactly where the handle does and as the handle does. -/
theorem session_recording (responses : List Recording.Response) (steps : List (Store × Operation))
    (log : List Statement) :
    session (Recording.database responses) steps log =
        (steps.map fun x => x.1.outcome responses x.2,
          log ++ steps.filterMap fun x => (x.1.issued x.2).toOption) ∧
      ∀ (t : Store) (op : Operation),
        (∃ e, t.Refuses op e ∧ t.issued op = .error e ∧ t.outcome responses op = .error e ∧
            ∀ log, t.perform (Recording.database responses) op log = (.error e, log)) ∨
          ∃ st, (∀ e, ¬ t.Refuses op e) ∧ t.issued op = .ok st ∧
            t.Answers responses op st (t.outcome responses op) ∧
            ∀ log, t.perform (Recording.database responses) op log =
              (t.outcome responses op, log ++ [st]) := by
  refine ⟨session_eq steps log, fun t op => ?_⟩
  have hp : ∀ log, t.perform (Recording.database responses) op log =
      (t.outcome responses op, log ++ (t.issued op).toOption.toList) := t.perform_recording op
  cases h : t.issued op with
  | error e =>
    have ho : t.outcome responses op = .error e := Store.outcome_of_refused h
    refine .inl ⟨e, Store.refuses_of_issued h, rfl, ho, fun log => ?_⟩
    rw [hp, ho, h]
    simp [Except.toOption]
  | ok st =>
    refine .inr ⟨st, Store.not_refuses_of_issued h, rfl, Store.answers_of_issued h, fun log => ?_⟩
    rw [hp, h]
    rfl

end Schemata
