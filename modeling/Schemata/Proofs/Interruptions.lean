import Schemata.Proofs.Provisioning

/-!
Provisioning that fails half way. A recording handle answers a statement by the first response whose
fragment occurs in it. The first batch that is answered by a failure ends provisioning: it is the
last one in the log, and its failure is reported as it is. The same holds of the reversal.
-/
namespace Schemata

namespace Recording

variable {responses : List Response} {sqls : List String}

theorem occursIn_iff (part whole : List Char) : occursIn part whole = true ↔ part <:+: whole := by
  induction whole with
  | nil => simp [occursIn]
  | cons c rest ih => simp [occursIn, ih, List.infix_cons_iff]

def Response.Matches (r : Response) (sql : String) : Prop := r.fragment.toList <:+: sql.toList

/-- The first response that matches the statement is the failure. -/
def Fails (responses : List Response) (sql : String) (e : DbError) : Prop :=
  ∃ before r after, responses = before ++ r :: after ∧
    (∀ q ∈ before, ¬ q.Matches sql) ∧ r.Matches sql ∧ r.answer = .error e

theorem find?_eq_some_iff (sql : String) (r : Response) :
    responses.find? (fun r => occursIn r.fragment.toList sql.toList) = some r ↔
      r.Matches sql ∧ ∃ before after, responses = before ++ r :: after ∧
        ∀ q ∈ before, ¬ q.Matches sql := by
  simp [List.find?_eq_some_iff_append, ← Bool.not_eq_true, occursIn_iff, Response.Matches]

theorem answer_eq_error_iff (sql : String) (e : DbError) :
    answer responses sql = .error e ↔ Fails responses sql e := by
  constructor
  · intro h
    unfold answer at h
    split at h
    · next r hr =>
      obtain ⟨hm, before, after, hs, hb⟩ := (find?_eq_some_iff sql r).mp hr
      exact ⟨before, r, after, hs, hb, hm, h⟩
    · cases h
  · rintro ⟨before, r, after, hs, hb, hm, he⟩
    rw [answer, (find?_eq_some_iff sql r).mpr ⟨hm, before, after, hs, hb⟩]
    exact he

theorem exists_answer_of_not_fails {sql : String} (h : ∀ e, ¬ Fails responses sql e) :
    ∃ rows, answer responses sql = .ok rows := by
  cases ha : answer responses sql with
  | ok rows => exact ⟨rows, rfl⟩
  | error e => exact absurd ((answer_eq_error_iff sql e).mp ha) (h e)

/-- A batch that fails is logged, and none of those after it is run. -/
theorem batches_cons_of_fails {sql : String} {e : DbError} (h : Fails responses sql e)
    (rest : List String) (log : List Statement) :
    (database responses).batches (sql :: rest) log = (.error e, log ++ [⟨.batch, sql, []⟩]) := by
  have hsql : (database responses).batch sql log = (.error e, log ++ [⟨.batch, sql, []⟩]) := by
    simp [database, (answer_eq_error_iff sql e).mpr h, Except.map]
  rw [Database.batches, hsql]

/-- What a run that issues the statements as batches does when some of them fail. The first field,
without responses, says which statements these are. -/
structure StopsAtFailure
    (run : List Response → List Statement → Except StoreError Unit × List Statement)
    (sqls : List String) : Prop where
  completes : ∀ responses log, (∀ sql ∈ sqls, ∀ e, ¬ Fails responses sql e) →
    run responses log = (.ok (), log ++ sqls.map fun sql => ⟨.batch, sql, []⟩)
  stops : ∀ responses log before sql after e, sqls = before ++ sql :: after →
    (∀ q ∈ before, ∀ e', ¬ Fails responses q e') → Fails responses sql e →
      run responses log =
        (.error (.database e), log ++ (before ++ [sql]).map fun q => ⟨.batch, q, []⟩)

/-- A run that hands the statements to the handle, and its failures on, stops where they do. -/
theorem stopsAtFailure_batches
    {run : List Response → List Statement → Except StoreError Unit × List Statement}
    (h : ∀ responses log, run responses log =
      (((database responses).batches sqls log).1.mapError .database,
        ((database responses).batches sqls log).2)) :
    StopsAtFailure run sqls where
  completes responses log hn := by
    rw [h, batches_of_answered fun sql hsql => exists_answer_of_not_fails (hn sql hsql)]
    rfl
  stops responses log before sql after e hs hn he := by
    rw [h, hs, Database.batches_append,
      batches_of_answered fun q hq => exists_answer_of_not_fails (hn q hq)]
    simp [batches_cons_of_fails he, Except.mapError]

end Recording

open Recording in
/-- Provisioning creates the tables in order up to the first whose statement fails, and its reversal
drops them in the opposite order likewise. -/
theorem provision_stops_at_failure (s : Schema) (policy : DuplicatePolicy) (e : Entities)
    (h : Entities.create s policy = .ok e) :
    ∃ ts, s.tables = .ok ts ∧
      StopsAtFailure (fun responses => e.provision (database responses)) (ts.map (·.render)) ∧
      StopsAtFailure (fun responses => e.unprovision (database responses))
        ((ts.map (·.name)).reverse.map (·.renderDrop)) := by
  obtain ⟨-, ho, -⟩ := (Entities.create_eq_ok_iff s policy e).mp h
  obtain ⟨gs, hg⟩ := Schema.exists_orderedFormats ho
  have ht := (s.tables_eq_ok_iff _).mpr ⟨gs, hg, rfl⟩
  refine ⟨_, ht, stopsAtFailure_batches fun responses log => ?_,
    stopsAtFailure_batches fun responses log => ?_⟩
  · rw [← Entities.createStatements_eq h ht]
    rfl
  · rw [← Entities.dropStatements_eq h ht]
    rfl

open Recording in
theorem provision_stops_reviewSchema :
    ∃ (e : Entities) (users reviews likes : Sql.CreateTable) (denied : DbError),
      Entities.create reviewSchema .fail = .ok e ∧
      reviewSchema.tables = .ok [users, reviews, likes] ∧
      e.provision (database [⟨"", .error denied⟩]) [] =
        (.error (.database denied), [⟨.batch, users.render, []⟩]) ∧
      e.unprovision (database [⟨"review;", .error denied⟩]) [] =
        (.error (.database denied),
          [⟨.batch, "drop table if exists public.review_to_user;", []⟩,
            ⟨.batch, "drop table if exists public.review;", []⟩]) := by
  obtain ⟨e, he⟩ : ∃ e, Entities.create reviewSchema .fail = .ok e := ⟨_, rfl⟩
  obtain ⟨users, reviews, likes, ht, hlikes, hreviews⟩ : ∃ users reviews likes,
      reviewSchema.tables = .ok [users, reviews, likes] ∧
      likes.name.renderDrop = "drop table if exists public.review_to_user;" ∧
      reviews.name.renderDrop = "drop table if exists public.review;" :=
    ⟨_, _, _, rfl, rfl, rfl⟩
  have hno : occursIn "review;".toList "drop table if exists public.review_to_user;".toList =
      false := by decide +kernel
  have hyes : occursIn "review;".toList "drop table if exists public.review;".toList =
      true := by decide +kernel
  obtain ⟨ts, hts, hp, hq⟩ := provision_stops_at_failure _ _ e he
  obtain rfl := Except.ok.inj (ht.symm.trans hts)
  refine ⟨e, users, reviews, likes, .query "denied", he, ht, ?_, ?_⟩
  · exact hp.stops _ [] [] users.render _ _ rfl (by simp)
      ⟨[], _, [], rfl, by simp, List.nil_infix, rfl⟩
  · refine hq.stops _ [] ["drop table if exists public.review_to_user;"]
      "drop table if exists public.review;" [users.name.renderDrop] _ ?_ ?_ ?_
    · simp [hlikes, hreviews]
    · intro q hq e' he'
      rw [← answer_eq_error_iff, List.mem_singleton.mp hq] at he'
      simp only [answer, List.find?, hno, reduceCtorEq] at he'
    · rw [← answer_eq_error_iff]
      simp only [answer, List.find?, hyes]

end Schemata
