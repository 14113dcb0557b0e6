import Schemata.Proofs.Acceptance

/-!
Rows keyed again by fields. A column that a field owns goes by the field's name, any other by its
form in lower camel case. Owned columns have names of their own, so a row of them keeps its entries.
But a column without an owner may take the name of a field, and of the columns that go by one name
the last in the row leaves its value.
-/
namespace Schemata

namespace DataFormat

variable {f : DataFormat}

/-! ### Columns and their names -/

/-- The name that an owned column goes by leads back to it. -/
theorem column_keyOfColumn {column : String} (h : column ∈ f.columnNames) :
    Name.column (f.keyOfColumn column) = column := by
  obtain ⟨x, hx, rfl⟩ := List.mem_map.mp h
  have hs : (f.fields.find? (·.columnName == x.columnName)).isSome :=
    List.find?_isSome.mpr ⟨x, hx, by simp⟩
  obtain ⟨y, hy⟩ := Option.isSome_iff_exists.mp hs
  have he : y.columnName = x.columnName := by simpa using List.find?_some hy
  rw [keyOfColumn, hy]
  exact he

theorem keyOfColumn_of_not_mem {column : String} (h : column ∉ f.columnNames) :
    f.keyOfColumn column = Name.ofColumn column := by
  have hf : f.fields.find? (·.columnName == column) = none := by
    simpa [columnNames] using h
  rw [keyOfColumn, hf]

theorem keyOfColumn_columnName (hc : f.columnNames.Nodup) {x : Field} (hx : x ∈ f.fields) :
    f.keyOfColumn x.columnName = x.name := by
  rw [keyOfColumn, find?_key hc hx]

/-- By a field's name goes its own column, and of the others only one without an owner. -/
theorem keyOfColumn_eq_name_iff (hc : f.columnNames.Nodup) {x : Field} (hx : x ∈ f.fields)
    (column : String) :
    f.keyOfColumn column = x.name ↔
      column = x.columnName ∨ (column ∉ f.columnNames ∧ Name.ofColumn column = x.name) := by
  by_cases hm : column ∈ f.columnNames
  · have hk : f.keyOfColumn column = x.name ↔ column = x.columnName := by
      refine ⟨fun he => ?_, fun he => he ▸ keyOfColumn_columnName hc hx⟩
      exact (column_keyOfColumn hm).symm.trans (congrArg Name.column he)
    simp [hk, hm]
  · have hne : column ≠ x.columnName := fun he => hm (he ▸ List.mem_map_of_mem hx)
    simp [hm, hne, keyOfColumn_of_not_mem hm]

/-! ### Rows of owned columns -/

/-- Where every column has an owner the entries stay as they are, apart from their keys. -/
theorem recordOfRow_of_declared {row : Record} (hn : (Dict.keys row).Nodup)
    (hd : ∀ c ∈ Dict.keys row, c ∈ f.columnNames) :
    f.recordOfRow row = row.map fun e => (f.keyOfColumn e.1, e.2) := by
  refine Dict.ofPairs_of_nodup ?_
  have hk : (Dict.keys (row.map fun e => (f.keyOfColumn e.1, e.2))).map Name.column =
      Dict.keys row := by
    simp only [Dict.keys, List.map_map]
    exact List.map_congr_left fun e he => column_keyOfColumn (hd _ (List.mem_map_of_mem he))
  exact (hk ▸ hn).of_map

/-- What the row has in the column of a field, the record has under the field's name. -/
theorem find?_recordOfRow_of_declared (hc : f.columnNames.Nodup) {row : Record}
    (hn : (Dict.keys row).Nodup) (hd : ∀ c ∈ Dict.keys row, c ∈ f.columnNames) {x : Field}
    (hx : x ∈ f.fields) :
    Dict.find? (f.recordOfRow row) x.name = Dict.find? row x.columnName := by
  rw [recordOfRow_of_declared hn hd]
  -- which entry is found is decided key by key, distinct or not
  clear hn
  induction row with
  | nil => rfl
  | cons e row ih =>
    obtain ⟨he, hd⟩ := List.forall_mem_cons.mp hd
    have hk : f.keyOfColumn e.1 = x.name ↔ e.1 = x.columnName := by
      rw [keyOfColumn_eq_name_iff hc hx, or_iff_left fun h => h.1 he]
    simp only [List.map_cons, Dict.find?, hk, ih hd]

/-- Each entry goes by the name of the field that owns its column. -/
theorem forall₂_recordOfRow (hc : f.columnNames.Nodup) {row : Record}
    (hn : (Dict.keys row).Nodup) (hd : ∀ c ∈ Dict.keys row, c ∈ f.columnNames) :
    List.Forall₂ (fun e e' => ∃ x ∈ f.fields, x.columnName = e.1 ∧ e' = (x.name, e.2)) row
      (f.recordOfRow row) := by
  rw [recordOfRow_of_declared hn hd, List.forall₂_map_right_iff, List.forall₂_same]
  intro e he
  obtain ⟨x, hx, hxe⟩ := List.mem_map.mp (hd e.1 (List.mem_map_of_mem he))
  exact ⟨x, hx, hxe, by rw [← hxe, keyOfColumn_columnName hc hx]⟩

/-- A row of all columns becomes a record of all fields. -/
theorem keys_recordOfRow (hc : f.columnNames.Nodup) {row : Record}
    (hk : Dict.keys row = f.columnNames) :
    Dict.keys (f.recordOfRow row) = f.fields.map (·.name) ∧
      (f.recordOfRow row).map (·.2) = row.map (·.2) := by
  have hn : (Dict.keys row).Nodup := hk ▸ hc
  have hnames : (Dict.keys row).map f.keyOfColumn = f.fields.map (·.name) := by
    rw [hk, columnNames, List.map_map]
    exact List.map_congr_left fun x hx => keyOfColumn_columnName hc hx
  rw [recordOfRow_of_declared hn fun c h => hk ▸ h, ← hnames]
  simp [Dict.keys, Function.comp_def]

/-! ### Rows of any columns -/

/-- Of the columns that go by one name the last in the row counts. -/
theorem find?_recordOfRow (f : DataFormat) (row : Record) (name : String) :
    Dict.find? (f.recordOfRow row) name =
      (row.filter fun e => f.keyOfColumn e.1 = name).getLast?.map (·.2) := by
  rw [recordOfRow, Dict.find?_ofPairs, ← List.map_reverse, Dict.find?_map_key,
    List.getLast?_filter]

/-- The entries whose columns no field owns and that go by the name all the same. -/
def strays (f : DataFormat) (name : String) (row : Record) : Record :=
  row.filter fun e => e.1 ∉ f.columnNames ∧ Name.ofColumn e.1 = name

/-- From a field's own column on, that column and the strays go by the field's name. -/
theorem filter_keyOfColumn (hc : f.columnNames.Nodup) {x : Field} (hx : x ∈ f.fields) {v : Json}
    {rest : Record} (h : x.columnName ∉ Dict.keys rest) :
    ((x.columnName, v) :: rest).filter (fun e => f.keyOfColumn e.1 = x.name) =
      (x.columnName, v) :: f.strays x.name rest := by
  have hr : rest.filter (fun e => f.keyOfColumn e.1 = x.name) = f.strays x.name rest := by
    refine List.filter_congr fun e he => decide_eq_decide.mpr ?_
    have hne : e.1 ≠ x.columnName := fun heq => h (heq ▸ List.mem_map_of_mem he)
    rw [keyOfColumn_eq_name_iff hc hx, or_iff_right hne]
  rw [List.filter_cons, if_pos (decide_eq_true (keyOfColumn_columnName hc hx)), hr]

/-- The last of what goes by a field's name is the last stray behind its column, or the column. -/
theorem find?_recordOfRow_name (hc : f.columnNames.Nodup) {x : Field} (hx : x ∈ f.fields)
    (front : Record) {v : Json} {rest : Record} (h : x.columnName ∉ Dict.keys rest) :
    Dict.find? (f.recordOfRow (front ++ (x.columnName, v) :: rest)) x.name =
      some ((f.strays x.name rest).getLast?.elim v (·.2)) := by
  rw [find?_recordOfRow, List.filter_append, filter_keyOfColumn hc hx h, List.getLast?_append,
    List.getLast?_cons]
  cases (f.strays x.name rest).getLast? <;> rfl

end DataFormat

/-- For a field whose column occurs in a row the record has the column's value, unless strays stand
behind the column: then it has the value of the last of these. Owned columns and strays in front of
the column make no difference. -/
theorem recordOfRow_keeps_iff (fs : List DataFormat) (hv : Validation.formats [] fs = .ok ())
    (f : DataFormat) (hf : f ∈ fs) (x : Field) (hx : x ∈ f.fields) (front rest : Record)
    (v : Json) (hn : (Dict.keys (front ++ (x.columnName, v) :: rest)).Nodup) :
    Dict.find? (f.recordOfRow (front ++ (x.columnName, v) :: rest)) x.name =
        some ((f.strays x.name rest).getLast?.elim v (·.2)) ∧
      (Dict.find? (f.recordOfRow (front ++ (x.columnName, v) :: rest)) x.name = some v ↔
        ∀ e ∈ (f.strays x.name rest).getLast?, e.2 = v) := by
  have hc := Validation.nodup_columnNames hv hf
  have hrest : x.columnName ∉ Dict.keys rest := by
    rw [Dict.keys, List.map_append, List.map_cons, List.nodup_append] at hn
    exact (List.nodup_cons.mp hn.2.1).1
  have hvalue := DataFormat.find?_recordOfRow_name (v := v) hc hx front hrest
  refine ⟨hvalue, ?_⟩
  rw [hvalue]
  cases (f.strays x.name rest).getLast? <;> simp

/-- Accounts have the identity of a user. -/
def account : DataFormat := ⟨"account", none, [⟨"userId", .integer, none, false, false⟩]⟩

/-- A stray in front of the column loses against it. -/
theorem recordOfRow_keeps_account :
    Validation.formats [] [account] = .ok () ∧
      (Dict.keys ([("userId", .int 8)] ++ ("user_id", .int 7) :: ([] : Record))).Nodup ∧
      Dict.find? (account.recordOfRow [("userId", .int 8), ("user_id", .int 7)]) "userId" =
        some (.int 7) := by
  have hv : Validation.formats [] [account] = .ok () := by rfl
  have hn : (Dict.keys ([("userId", .int 8)] ++ ("user_id", .int 7) :: ([] : Record))).Nodup := by
    decide
  exact ⟨hv, hn, ((recordOfRow_keeps_iff [account] hv account (.head _)
    ⟨"userId", .integer, none, false, false⟩ (.head _) [("userId", .int 8)] [] (.int 7) hn).2).mpr
      nofun⟩

/-- A stray behind the column takes its place. -/
theorem not_recordOfRow_keeps_account :
    ¬ ∀ fs, Validation.formats [] fs = .ok () → ∀ f ∈ fs, ∀ x ∈ f.fields, ∀ row : Record,
      (Dict.keys row).Nodup → ∀ v, (x.columnName, v) ∈ row →
        Dict.find? (f.recordOfRow row) x.name = some v := by
  intro h
  have hkept := h [account] (by rfl) account (.head _) _ (.head _)
    [("user_id", .int 7), ("userId", .int 8)] (by decide) (.int 7) (.head _)
  have hlost : Dict.find? (account.recordOfRow [("user_id", .int 7), ("userId", .int 8)]) "userId" =
      some (.int 8) := by rfl
  exact absurd (hkept.symm.trans hlost) (by simp)

end Schemata
