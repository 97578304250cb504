import Baggage.Proofs.Json.Parts
import Baggage.Proofs.Service.Answer
import Mathlib.Data.Prod.Lex

/-!
# Baggage.Proofs.Service.Grammar

**Which bodies describe a linear program**, and what is said of the others. `Describes` tells the
form of a request without regard to how it is read. `Violates` lists what can be wrong with a body,
each fault by itself, so that a body may have many, and `Worded` spells out what the client is told
of each. `RequestFault.rank` puts the faults in order, and `IsFirst` picks the one in front of all
others.

The reading goes through the parts of a body in that order. After each step no fault of a lower
stage is left (`Passes`), so that the fault at which it stops is the first, and where it does not
stop there is none (`readProblem_cases`). What a fault of a stage can be is found out once
(`Violates.saysOf`), so that no step has to look at the faults of the others. `readProblem_spec`
puts this together with the answer to the client.
-/

namespace Baggage

namespace Service

open LinearProgram (Problem Row)

/-! ### The form of a request -/

/-- What a body says, if it describes a linear program. -/
structure Describes (body : Json) (p : Problem Float) : Prop where
  /-- The objective is a list of numbers. -/
  objective : ∃ numbers : List Json.Number,
    body.HasPart "objective" (.array (numbers.map .number)) ∧
      p.objective = numbers.map Json.Number.toFloat
  /-- The greatest value is asked for, unless something else is said. -/
  direction : body.HasPart "isMaximization" (.bool p.maximize) ∨
    (∀ part, ¬ body.HasPart "isMaximization" part) ∧ p.maximize = true
  /-- The rows are lists of numbers, as many as there are bounds. They are named `c1`, `c2`, … in
  order, and each bounds from above. -/
  rows : ∃ (rows : List (List Json.Number)) (bounds : List Json.Number),
    body.HasPart "constraints" (.array (rows.map fun row => .array (row.map .number))) ∧
      body.HasPart "b" (.array (bounds.map .number)) ∧
      p.rows.length = rows.length ∧ p.rows.length = bounds.length ∧
      ∀ i row coefficients bound, p.rows[i]? = some row → rows[i]? = some coefficients →
        bounds[i]? = some bound →
          row = (⟨"c" ++ toString (i + 1), coefficients.map Json.Number.toFloat, .atMost,
            bound.toFloat⟩ : Row Float)

/-- The parts that a request must have. -/
def requiredParts : List String := ["objective", "constraints", "b"]

/-- **What is wrong with a body**, each fault by itself. -/
inductive Violates (body : Json) : RequestFault → Prop where
  /-- A required part is missing. -/
  | missing {name : String} (hname : name ∈ requiredParts)
      (hpart : ∀ part, ¬ body.HasPart name part) : Violates body .missing
  /-- A required part is no array. -/
  | notArrays {name : String} (hname : name ∈ requiredParts) {part : Json}
      (hpart : body.HasPart name part) (harray : ¬ part.IsArray) : Violates body .notArrays
  /-- The direction is no truth value. -/
  | notDirection {part : Json} (hpart : body.HasPart "isMaximization" part)
      (hbool : ∀ value, part ≠ .bool value) : Violates body .notDirection
  /-- An item of the objective or of the bounds is no number. -/
  | number {place : Place} (hplace : place = .objective ∨ place = .bounds) {items : List Json}
      (hpart : body.HasPart place.name (.array items)) {i : ℕ} {item : Json}
      (hitem : items[i]? = some item) (hnumber : ¬ item.IsNumber) :
      Violates body (.notNumber place i)
  /-- A row is no array. -/
  | notRow {rows : List Json} (hpart : body.HasPart "constraints" (.array rows)) {i : ℕ}
      {row : Json} (hrow : rows[i]? = some row) (harray : ¬ row.IsArray) :
      Violates body (.notRow i)
  /-- An item of a row is no number. -/
  | row {rows : List Json} (hpart : body.HasPart "constraints" (.array rows)) {i : ℕ}
      {items : List Json} (hrow : rows[i]? = some (.array items)) {j : ℕ} {item : Json}
      (hitem : items[j]? = some item) (hnumber : ¬ item.IsNumber) :
      Violates body (.notNumber (.row i) j)
  /-- There are more rows than bounds, or more bounds than rows. -/
  | unfit {rows bounds : List Json} (hrows : body.HasPart "constraints" (.array rows))
      (hbounds : body.HasPart "b" (.array bounds)) (hlength : rows.length ≠ bounds.length) :
      Violates body (.unfit (.boundCount rows.length bounds.length))

/-- **The wording of a fault**, as far as a body can have it. Places and items count from zero. -/
inductive Worded : RequestFault → String → Prop where
  | missing : Worded .missing "Missing required parameters: objective, constraints, b"
  | notArrays :
      Worded .notArrays "Invalid input: objective, constraints, and b must be arrays"
  | notDirection : Worded .notDirection "Invalid input: isMaximization must be a boolean"
  | objective (i : ℕ) : Worded (.notNumber .objective i)
      ("Invalid input: objective[" ++ toString i ++ "] must be a number")
  | notRow (i : ℕ) :
      Worded (.notRow i) ("Invalid input: constraints[" ++ toString i ++ "] must be an array")
  | row (i j : ℕ) : Worded (.notNumber (.row i) j)
      ("Invalid input: constraints[" ++ toString i ++ "][" ++ toString j ++ "] must be a number")
  | bounds (i : ℕ) :
      Worded (.notNumber .bounds i) ("Invalid input: b[" ++ toString i ++ "] must be a number")
  | unfit (rows bounds : ℕ) : Worded (.unfit (.boundCount rows bounds))
      ("Invalid input: " ++ toString rows ++ " constraint rows but " ++ toString bounds
        ++ " right-hand side values")

/-- The order of the faults: first by stage, then by the place in a list, and in a row by the place
of the item. -/
def RequestFault.rank : RequestFault → ℕ ×ₗ ℕ ×ₗ ℕ
  | .missing => toLex (0, toLex (0, 0))
  | .notArrays => toLex (1, toLex (0, 0))
  | .notDirection => toLex (2, toLex (0, 0))
  | .notNumber .objective i => toLex (3, toLex (i, 0))
  | .notRow i => toLex (4, toLex (i, 0))
  | .notNumber (.row i) j => toLex (4, toLex (i, j))
  | .notNumber .bounds i => toLex (5, toLex (i, 0))
  | .unfit _ => toLex (6, toLex (0, 0))

/-- Whether a fault of a body comes in front of all others. -/
def IsFirst (body : Json) (fault : RequestFault) : Prop :=
  Violates body fault ∧ ∀ other, Violates body other → other ≠ fault → fault.rank < other.rank

/-- There is only one first fault. -/
theorem IsFirst.unique {body : Json} {fault other : RequestFault} (h : IsFirst body fault)
    (h' : IsFirst body other) : fault = other := by
  by_contra hne
  exact lt_asymm (h.2 other h'.1 (Ne.symm hne)) (h'.2 fault h.1 hne)

/-! ### Lists of items -/

section Lists

variable {β γ δ ε : Type} {f : β × ℕ → Except ε γ} {items : List β}

/-- A list is not read because of the first item that cannot be read. -/
theorem mapM_zipIdx_eq_error {k : ℕ} {e : ε} (h : (items.zipIdx k).mapM f = .error e) :
    ∃ i item, items[i]? = some item ∧ f (item, k + i) = .error e ∧
      ∀ j < i, ∀ other, items[j]? = some other → ∃ r, f (other, k + j) = .ok r := by
  induction items generalizing k with
  | nil => cases h
  | cons item rest ih =>
      rw [List.zipIdx_cons, List.mapM_cons] at h
      cases hitem : f (item, k) with
      | error e' =>
          rw [hitem] at h
          obtain rfl := Except.error.inj h
          exact ⟨0, item, rfl, hitem, fun j hj => absurd hj (Nat.not_lt_zero j)⟩
      | ok r =>
          rw [hitem] at h
          cases hrest : (rest.zipIdx (k + 1)).mapM f with
          | ok rs =>
              rw [hrest] at h
              cases h
          | error e' =>
              rw [hrest] at h
              obtain rfl := Except.error.inj h
              obtain ⟨i, found, hfound, herror, hbefore⟩ := ih hrest
              refine ⟨i + 1, found, hfound, ?_, fun j hj other hother => ?_⟩
              · rwa [Nat.succ_add_eq_add_succ] at herror
              · cases j with
                | zero =>
                    obtain rfl := Option.some.inj hother
                    exact ⟨r, hitem⟩
                | succ j =>
                    have hread := hbefore j (Nat.lt_of_succ_lt_succ hj) other hother
                    rwa [Nat.succ_add_eq_add_succ] at hread

variable {encode : δ → β} {decode : δ → γ}

/-- A list is read if each of its items is. -/
theorem mapM_zipIdx_eq_ok_iff
    (h : ∀ item i r, f (item, i) = .ok r ↔ ∃ n, item = encode n ∧ r = decode n) {k : ℕ}
    {rs : List γ} : (items.zipIdx k).mapM f = .ok rs ↔
      ∃ ns : List δ, items = ns.map encode ∧ rs = ns.map decode := by
  induction items generalizing k rs with
  | nil =>
      constructor
      · intro hok
        obtain rfl := Except.ok.inj hok
        exact ⟨[], rfl, rfl⟩
      · rintro ⟨ns, hitems, rfl⟩
        obtain rfl := List.map_eq_nil_iff.mp hitems.symm
        rfl
  | cons item rest ih =>
      rw [List.zipIdx_cons, List.mapM_cons]
      constructor
      · intro hok
        cases hitem : f (item, k) with
        | error e =>
            rw [hitem] at hok
            cases hok
        | ok r =>
            rw [hitem] at hok
            cases hrest : (rest.zipIdx (k + 1)).mapM f with
            | error e =>
                rw [hrest] at hok
                cases hok
            | ok rs' =>
                rw [hrest] at hok
                obtain rfl := Except.ok.inj hok
                obtain ⟨n, rfl, rfl⟩ := (h _ _ _).mp hitem
                obtain ⟨ns, rfl, rfl⟩ := ih.mp hrest
                exact ⟨n :: ns, rfl, rfl⟩
      · rintro ⟨ns, hitems, rfl⟩
        cases ns with
        | nil => cases hitems
        | cons n ns =>
            obtain ⟨rfl, rfl⟩ := List.cons.inj hitems
            rw [(h _ _ _).mpr ⟨n, rfl, rfl⟩, ih.mpr ⟨ns, rfl, rfl⟩]
            rfl

end Lists

variable {place : Place} {items : List Json} {index : ℕ}

theorem readNumber_eq_ok_iff {item : Json} {x : Float} :
    readNumber place (item, index) = .ok x ↔
      ∃ n : Json.Number, item = .number n ∧ x = n.toFloat := by
  rw [← Json.float?_eq_some_iff, readNumber]
  cases item.float? <;> simp

theorem readNumber_eq_error {item : Json} {fault : RequestFault}
    (h : readNumber place (item, index) = .error fault) :
    fault = .notNumber place index ∧ ¬ item.IsNumber := by
  rw [readNumber] at h
  cases item with
  | number n => cases h
  | _ => exact ⟨(Except.error.inj h).symm, by rintro ⟨_, h⟩; cases h⟩

/-- A list of numbers is read as the doubles nearest to them. -/
theorem readNumbers_eq_ok_iff {xs : List Float} : readNumbers place items = .ok xs ↔
    ∃ numbers : List Json.Number, items = numbers.map .number ∧
      xs = numbers.map Json.Number.toFloat :=
  mapM_zipIdx_eq_ok_iff fun _ _ _ => readNumber_eq_ok_iff

/-- A list is blamed for its first item that is no number. -/
theorem readNumbers_eq_error {fault : RequestFault} (h : readNumbers place items = .error fault) :
    ∃ i item, fault = .notNumber place i ∧ items[i]? = some item ∧ ¬ item.IsNumber ∧
      ∀ j < i, ∀ other, items[j]? = some other → other.IsNumber := by
  obtain ⟨i, item, hitem, herror, hbefore⟩ := mapM_zipIdx_eq_error h
  obtain ⟨rfl, hnumber⟩ := readNumber_eq_error herror
  refine ⟨i, item, by rw [Nat.zero_add], hitem, hnumber, fun j hj other hother => ?_⟩
  obtain ⟨x, hx⟩ := hbefore j hj other hother
  obtain ⟨n, hn, -⟩ := readNumber_eq_ok_iff.mp hx
  exact ⟨n, hn⟩

theorem readRow_eq_ok_iff {row : Json} {xs : List Float} : readRow (row, index) = .ok xs ↔
    ∃ numbers : List Json.Number, row = .array (numbers.map .number) ∧
      xs = numbers.map Json.Number.toFloat := by
  cases row with
  | array items => simp [readRow, Json.array?, readNumbers_eq_ok_iff]
  | _ => simp [readRow, Json.array?]

/-- What is wrong with the row at a place. -/
def RowViolates (row : Json) (index : ℕ) (fault : RequestFault) : Prop :=
  (fault = .notRow index ∧ ¬ row.IsArray) ∨ ∃ items, row = .array items ∧ ∃ j item,
    fault = .notNumber (.row index) j ∧ items[j]? = some item ∧ ¬ item.IsNumber

theorem not_rowViolates (numbers : List Json.Number) (index : ℕ) (fault : RequestFault) :
    ¬ RowViolates (.array (numbers.map .number)) index fault := by
  rintro (⟨-, harray⟩ | ⟨items, hitems, j, item, -, hitem, hnumber⟩)
  · exact harray ⟨_, rfl⟩
  · obtain rfl := Json.array.inj hitems
    rw [List.getElem?_map] at hitem
    obtain ⟨n, -, rfl⟩ := Option.map_eq_some_iff.mp hitem
    exact hnumber ⟨n, rfl⟩

/-- The faults of one row come in front of those of the rows after it. -/
theorem RowViolates.rank_lt {row row' : Json} {i k : ℕ} {fault other : RequestFault}
    (h : RowViolates row i fault) (h' : RowViolates row' k other) (hlt : i < k) :
    fault.rank < other.rank := by
  rcases h with ⟨rfl, -⟩ | ⟨_, -, j, _, rfl, -, -⟩ <;>
    rcases h' with ⟨rfl, -⟩ | ⟨_, -, j', _, rfl, -, -⟩ <;>
      simp [RequestFault.rank, Prod.Lex.toLex_lt_toLex, hlt]

/-- **A row is blamed** for being no array, or for its first item that is no number. -/
theorem readRow_eq_error {row : Json} {fault : RequestFault}
    (h : readRow (row, index) = .error fault) :
    RowViolates row index fault ∧
      ∀ other, RowViolates row index other → other ≠ fault → fault.rank < other.rank := by
  cases row with
  | array items =>
      obtain ⟨j, item, rfl, hitem, hnumber, hbefore⟩ := readNumbers_eq_error h
      refine ⟨Or.inr ⟨items, rfl, j, item, rfl, hitem, hnumber⟩, ?_⟩
      rintro other (⟨-, harray⟩ | ⟨items', hitems, k, found, rfl, hfound, hnot⟩) hne
      · exact absurd ⟨items, rfl⟩ harray
      · obtain rfl := Json.array.inj hitems
        rcases lt_trichotomy j k with hlt | rfl | hgt
        · simp [RequestFault.rank, Prod.Lex.toLex_lt_toLex, hlt]
        · exact absurd rfl hne
        · exact absurd (hbefore k hgt found hfound) hnot
  | _ =>
      obtain rfl := Except.error.inj h
      refine ⟨Or.inl ⟨rfl, by rintro ⟨_, h⟩; cases h⟩, ?_⟩
      rintro other (⟨rfl, -⟩ | ⟨items, hitems, -⟩) hne
      · exact absurd rfl hne
      · cases hitems

/-- The rows are read as lists of numbers. -/
theorem readRows_eq_ok_iff {rows : List Json} {xss : List (List Float)} :
    rows.zipIdx.mapM readRow = .ok xss ↔ ∃ numbers : List (List Json.Number),
      rows = numbers.map (fun row => .array (row.map .number)) ∧
        xss = numbers.map (List.map Json.Number.toFloat) :=
  mapM_zipIdx_eq_ok_iff fun _ _ _ => readRow_eq_ok_iff

/-! ### The problem of equally many rows and bounds -/

section Dense

variable (objective : List Float) (maximize : Bool) {coefficients : List (List Json.Number)}
  {bounds : List Json.Number}

theorem ofDense_of_length_eq (h : coefficients.length = bounds.length) :
    Problem.ofDense objective (coefficients.map (List.map Json.Number.toFloat))
        (bounds.map Json.Number.toFloat) maximize
      = .ok ⟨objective, maximize, Problem.numberedRows
          (coefficients.map (List.map Json.Number.toFloat)) (bounds.map Json.Number.toFloat)⟩ := by
  simp [Problem.ofDense, h]

theorem ofDense_of_length_ne (h : coefficients.length ≠ bounds.length) :
    Problem.ofDense objective (coefficients.map (List.map Json.Number.toFloat))
        (bounds.map Json.Number.toFloat) maximize
      = .error (.boundCount coefficients.length bounds.length) := by
  simp [Problem.ofDense, h]

variable {objective : List Json.Number} {maximize : Bool} {body : Json}

theorem describes_numberedRows
    (hobjective : body.HasPart "objective" (.array (objective.map .number)))
    (hdirection : body.HasPart "isMaximization" (.bool maximize) ∨
      (∀ part, ¬ body.HasPart "isMaximization" part) ∧ maximize = true)
    (hrows : body.HasPart "constraints"
      (.array (coefficients.map fun row => .array (row.map .number))))
    (hbounds : body.HasPart "b" (.array (bounds.map .number)))
    (h : coefficients.length = bounds.length) :
    Describes body ⟨objective.map Json.Number.toFloat, maximize, Problem.numberedRows
      (coefficients.map (List.map Json.Number.toFloat)) (bounds.map Json.Number.toFloat)⟩ := by
  refine ⟨⟨objective, hobjective, rfl⟩, hdirection, coefficients, bounds, hrows, hbounds,
    ?_, ?_, ?_⟩
  · simp [Problem.numberedRows, h]
  · simp [Problem.numberedRows, h]
  · intro i row cs b hrow hcs hb
    have hzip : ((coefficients.map (List.map Json.Number.toFloat)).zip
        (bounds.map Json.Number.toFloat))[i]? = some (cs.map Json.Number.toFloat, b.toFloat) := by
      simp [List.getElem?_zip_eq_some, hcs, hb]
    rw [Problem.numberedRows, List.getElem?_mapIdx, hzip] at hrow
    exact (Option.some.inj hrow).symm

end Dense

/-! ### One stage after the other -/

/-- The stage of a fault. -/
def RequestFault.stage (fault : RequestFault) : ℕ := (ofLex fault.rank).1

theorem RequestFault.stage_le (fault : RequestFault) : fault.stage ≤ 6 := by
  cases fault with
  | notNumber place index => cases place <;> simp [stage, rank]
  | _ => simp [stage, rank]

/-- Whether a body has no fault of a stage below the given one. -/
def Passes (body : Json) (stage : ℕ) : Prop := ∀ fault, Violates body fault → stage ≤ fault.stage

section Stages

variable {body : Json} {stage : ℕ} {fault : RequestFault}

theorem Passes.succ (h : Passes body stage)
    (hnone : ∀ fault, Violates body fault → fault.stage ≠ stage) : Passes body (stage + 1) :=
  fun fault hfault => Nat.lt_of_le_of_ne (h fault hfault) (hnone fault hfault).symm

/-- Where no fault of a lower stage is left, only those of the same stage can come in front. -/
theorem Passes.isFirst (h : Passes body fault.stage) (hfault : Violates body fault)
    (hsame : ∀ other, Violates body other → other.stage = fault.stage → other ≠ fault →
      fault.rank < other.rank) : IsFirst body fault := by
  refine ⟨hfault, fun other hother hne => ?_⟩
  rcases Nat.eq_or_lt_of_le (h other hother) with heq | hlt
  · exact hsame other hother heq.symm hne
  · exact Prod.Lex.lt_iff.mpr (Or.inl hlt)

/-- What a fault of a stage says of a body. -/
def SaysOf (body : Json) (fault : RequestFault) : ℕ → Prop
  | 0 => fault = .missing
  | 1 => fault = .notArrays
  | 2 => fault = .notDirection ∧
      ∃ part, body.HasPart "isMaximization" part ∧ ∀ value, part ≠ .bool value
  | 3 => NumberViolates .objective
  | 4 => ∃ rows, body.HasPart "constraints" (.array rows) ∧
      ∃ i row, rows[i]? = some row ∧ RowViolates row i fault
  | 5 => NumberViolates .bounds
  | _ => ∃ rows bounds, body.HasPart "constraints" (.array rows) ∧
      body.HasPart "b" (.array bounds) ∧ rows.length ≠ bounds.length ∧
      fault = .unfit (.boundCount rows.length bounds.length)
where
  /-- The fault of a list of numbers. -/
  NumberViolates (place : Place) : Prop := ∃ items, body.HasPart place.name (.array items) ∧
    ∃ i item, fault = .notNumber place i ∧ items[i]? = some item ∧ ¬ item.IsNumber

/-- Every fault says what those of its stage do. All inversions of `Violates` go through this one.
-/
theorem Violates.saysOf (h : Violates body fault) : SaysOf body fault fault.stage := by
  cases h with
  | missing => rfl
  | notArrays => rfl
  | notDirection hpart hbool => exact ⟨rfl, _, hpart, hbool⟩
  | number hplace hpart hitem hnumber =>
      rcases hplace with rfl | rfl
      · exact ⟨_, hpart, _, _, rfl, hitem, hnumber⟩
      · exact ⟨_, hpart, _, _, rfl, hitem, hnumber⟩
  | notRow hpart hrow harray => exact ⟨_, hpart, _, _, hrow, Or.inl ⟨rfl, harray⟩⟩
  | row hpart hrow hitem hnumber =>
      exact ⟨_, hpart, _, _, hrow, Or.inr ⟨_, rfl, _, _, rfl, hitem, hnumber⟩⟩
  | unfit hrows hbounds hlength => exact ⟨_, _, hrows, hbounds, hlength, rfl⟩

theorem Violates.of_stage (h : Violates body fault) (hstage : fault.stage = stage) :
    SaysOf body fault stage := hstage ▸ h.saysOf

/-- The faults of the objective, or of the bounds. -/
theorem Violates.of_stage_number {place : Place} (hplace : place = .objective ∨ place = .bounds)
    {items : List Json} (hpart : body.HasPart place.name (.array items))
    (h : Violates body fault) (hstage : fault.stage = (RequestFault.notNumber place 0).stage) :
    ∃ i item, fault = .notNumber place i ∧ items[i]? = some item ∧ ¬ item.IsNumber := by
  have hsays : SaysOf.NumberViolates body fault place := by
    rcases hplace with rfl | rfl
    · exact h.of_stage hstage
    · exact h.of_stage hstage
  obtain ⟨items', hpart', hfault⟩ := hsays
  obtain rfl := Json.array.inj (hpart'.unique hpart)
  exact hfault

/-- The faults of the rows. -/
theorem Violates.of_stage_row {rows : List Json} (hpart : body.HasPart "constraints" (.array rows))
    (h : Violates body fault) (hstage : fault.stage = 4) :
    ∃ i row, rows[i]? = some row ∧ RowViolates row i fault := by
  obtain ⟨rows', hpart', hfault⟩ := h.of_stage hstage
  obtain rfl := Json.array.inj (hpart'.unique hpart)
  exact hfault

/-- **The objective or the bounds** are read, or the first item that is no number is the first
fault. -/
theorem Passes.readNumbers {place : Place} (hplace : place = .objective ∨ place = .bounds)
    {items : List Json} (hpart : body.HasPart place.name (.array items))
    (h : Passes body (RequestFault.notNumber place 0).stage) :
    (∃ fault, readNumbers place items = .error fault ∧ IsFirst body fault) ∨
      ∃ numbers : List Json.Number, items = numbers.map .number ∧
        readNumbers place items = .ok (numbers.map Json.Number.toFloat) ∧
        Passes body ((RequestFault.notNumber place 0).stage + 1) := by
  have hstage (i : ℕ) :
      (RequestFault.notNumber place i).stage = (RequestFault.notNumber place 0).stage := by
    rcases hplace with rfl | rfl <;> rfl
  cases hread : Service.readNumbers place items with
  | error fault =>
      obtain ⟨i, item, rfl, hitem, hnumber, hbefore⟩ := readNumbers_eq_error hread
      have hfirst : Passes body (RequestFault.notNumber place i).stage := (hstage i).symm ▸ h
      refine Or.inl ⟨_, rfl, hfirst.isFirst (.number hplace hpart hitem hnumber) ?_⟩
      intro other hother hsame hne
      obtain ⟨j, found, rfl, hfound, hnot⟩ :=
        hother.of_stage_number hplace hpart (hsame.trans (hstage i))
      rcases lt_trichotomy i j with hlt | rfl | hgt
      · rcases hplace with rfl | rfl <;>
          simp [RequestFault.rank, Prod.Lex.toLex_lt_toLex, hlt]
      · exact absurd rfl hne
      · exact absurd (hbefore j hgt found hfound) hnot
  | ok xs =>
      obtain ⟨numbers, rfl, rfl⟩ := readNumbers_eq_ok_iff.mp hread
      refine Or.inr ⟨numbers, rfl, rfl, h.succ fun fault hfault hsame => ?_⟩
      obtain ⟨i, item, -, hitem, hnumber⟩ := hfault.of_stage_number hplace hpart hsame
      rw [List.getElem?_map] at hitem
      obtain ⟨n, -, rfl⟩ := Option.map_eq_some_iff.mp hitem
      exact hnumber ⟨n, rfl⟩

/-- **The rows** are read, or the first one that cannot be is the first fault. -/
theorem Passes.readRows {rows : List Json} (hpart : body.HasPart "constraints" (.array rows))
    (h : Passes body 4) :
    (∃ fault, rows.zipIdx.mapM readRow = .error fault ∧ IsFirst body fault) ∨
      ∃ numbers : List (List Json.Number),
        rows = numbers.map (fun row => .array (row.map .number)) ∧
        rows.zipIdx.mapM readRow = .ok (numbers.map (List.map Json.Number.toFloat)) ∧
        Passes body 5 := by
  cases hread : rows.zipIdx.mapM readRow with
  | error fault =>
      obtain ⟨i, row, hrow, herror, hbefore⟩ := mapM_zipIdx_eq_error hread
      rw [Nat.zero_add] at herror
      obtain ⟨hfault, hrest⟩ := readRow_eq_error herror
      have hstage : fault.stage = 4 := by
        rcases hfault with ⟨rfl, -⟩ | ⟨_, -, j, _, rfl, -, -⟩ <;> rfl
      have hviolates : Violates body fault := by
        rcases hfault with ⟨rfl, harray⟩ | ⟨items, rfl, j, item, rfl, hitem, hnumber⟩
        · exact .notRow hpart hrow harray
        · exact .row hpart hrow hitem hnumber
      refine Or.inl ⟨fault, rfl, (hstage.symm ▸ h).isFirst hviolates ?_⟩
      intro other hother hsame hne
      obtain ⟨k, found, hfound, hfoundFault⟩ := hother.of_stage_row hpart (hsame.trans hstage)
      rcases lt_trichotomy i k with hlt | rfl | hgt
      · exact hfault.rank_lt hfoundFault hlt
      · obtain rfl := Option.some.inj (hrow.symm.trans hfound)
        exact hrest other hfoundFault hne
      · obtain ⟨xs, hxs⟩ := hbefore k hgt found hfound
        obtain ⟨numbers, rfl, -⟩ := readRow_eq_ok_iff.mp hxs
        exact absurd hfoundFault (not_rowViolates numbers k other)
  | ok xss =>
      obtain ⟨numbers, rfl, rfl⟩ := readRows_eq_ok_iff.mp hread
      refine Or.inr ⟨numbers, rfl, rfl, h.succ fun fault hfault hsame => ?_⟩
      obtain ⟨i, row, hrow, hrowFault⟩ := hfault.of_stage_row hpart hsame
      rw [List.getElem?_map] at hrow
      obtain ⟨found, -, rfl⟩ := Option.map_eq_some_iff.mp hrow
      exact not_rowViolates found i fault hrowFault

/-- **The direction** is read, or it is the first fault. -/
theorem Passes.readDirection (h : Passes body 2) :
    (∃ fault, readDirection (body.present? "isMaximization") = .error fault ∧ IsFirst body fault) ∨
      ∃ maximize, readDirection (body.present? "isMaximization") = .ok maximize ∧
        (body.HasPart "isMaximization" (.bool maximize) ∨
          (∀ part, ¬ body.HasPart "isMaximization" part) ∧ maximize = true) ∧ Passes body 3 := by
  cases hpresent : body.present? "isMaximization" with
  | none =>
      rw [Json.present?_eq_none_iff] at hpresent
      refine Or.inr ⟨true, rfl, Or.inr ⟨hpresent, rfl⟩, h.succ fun fault hfault hstage => ?_⟩
      obtain ⟨-, part, hpart, -⟩ := hfault.of_stage hstage
      exact hpresent part hpart
  | some part =>
      rw [Json.present?_eq_some_iff] at hpresent
      by_cases hbool : ∃ value, part = .bool value
      · obtain ⟨value, rfl⟩ := hbool
        refine Or.inr ⟨value, rfl, Or.inl hpresent, h.succ fun fault hfault hstage => ?_⟩
        obtain ⟨-, part, hpart, hother⟩ := hfault.of_stage hstage
        exact hother value (hpart.unique hpresent)
      · have hother (value : Bool) (hvalue : part = .bool value) : False := hbool ⟨value, hvalue⟩
        have herror : Service.readDirection (some part) = .error .notDirection := by
          cases part with
          | bool value => exact absurd rfl (hother value)
          | _ => rfl
        refine Or.inl ⟨_, herror, Passes.isFirst h (.notDirection hpresent hother) ?_⟩
        intro fault hfault hstage hne
        exact absurd (hfault.of_stage hstage).1 hne

/-- There are as many rows as bounds, or else this is the only fault. -/
theorem Passes.isFirst_unfit {rows bounds : List Json} (h : Passes body 6)
    (hrows : body.HasPart "constraints" (.array rows))
    (hbounds : body.HasPart "b" (.array bounds)) :
    (rows.length = bounds.length ∧ ∀ fault, ¬ Violates body fault) ∨
      (rows.length ≠ bounds.length ∧
        IsFirst body (.unfit (.boundCount rows.length bounds.length))) := by
  have hlast (fault : RequestFault) (hfault : Violates body fault) :
      fault = .unfit (.boundCount rows.length bounds.length) ∧ rows.length ≠ bounds.length := by
    have hstage : fault.stage = 6 := le_antisymm fault.stage_le (h fault hfault)
    obtain ⟨rows', bounds', hrows', hbounds', hlength, rfl⟩ := hfault.of_stage hstage
    obtain rfl := Json.array.inj (hrows'.unique hrows)
    obtain rfl := Json.array.inj (hbounds'.unique hbounds)
    exact ⟨rfl, hlength⟩
  by_cases hlength : rows.length = bounds.length
  · exact Or.inl ⟨hlength, fun fault hfault => (hlast fault hfault).2 hlength⟩
  · refine Or.inr ⟨hlength, .unfit hrows hbounds hlength, fun fault hfault hne => ?_⟩
    exact absurd (hlast fault hfault).1 hne

/-- Where all parts are arrays, there is no fault of the first two stages. -/
theorem passes_of_arrays (h : ∀ name ∈ requiredParts, ∃ items, body.HasPart name (.array items)) :
    Passes body 2 := by
  intro fault hfault
  cases hfault with
  | missing hname hpart =>
      obtain ⟨items, hitems⟩ := h _ hname
      exact absurd hitems (hpart _)
  | notArrays hname hpart harray =>
      obtain ⟨items, hitems⟩ := h _ hname
      exact absurd ⟨items, hpart.unique hitems⟩ harray
  | number hplace => rcases hplace with rfl | rfl <;> simp [RequestFault.stage, RequestFault.rank]
  | _ => simp [RequestFault.stage, RequestFault.rank]

/-- **The reading of the parts ends at the first fault**, or else the body describes what was read
and has no fault at all. -/
theorem readParts_cases {objective rows bounds : List Json}
    (hobjective : body.HasPart "objective" (.array objective))
    (hrows : body.HasPart "constraints" (.array rows))
    (hbounds : body.HasPart "b" (.array bounds)) :
    (∃ fault, readParts (body.present? "isMaximization") objective rows bounds = .error fault ∧
      IsFirst body fault) ∨
    ∃ p, readParts (body.present? "isMaximization") objective rows bounds = .ok p ∧
      Describes body p ∧ ∀ fault, ¬ Violates body fault := by
  have harrays : Passes body 2 := passes_of_arrays (by
    simp only [requiredParts, List.forall_mem_cons, List.not_mem_nil, false_implies, implies_true,
      and_true]
    exact ⟨⟨_, hobjective⟩, ⟨_, hrows⟩, ⟨_, hbounds⟩⟩)
  unfold readParts
  rcases harrays.readDirection with ⟨fault, herror, hfirst⟩ | ⟨maximize, hok, hdirection, h3⟩
  · rw [herror]
    exact Or.inl ⟨fault, rfl, hfirst⟩
  rw [hok]
  rcases h3.readNumbers (Or.inl rfl) hobjective with
    ⟨fault, herror, hfirst⟩ | ⟨costs, rfl, hok, h4⟩
  · simp only [herror]
    exact Or.inl ⟨fault, rfl, hfirst⟩
  rw [hok]
  rcases h4.readRows hrows with ⟨fault, herror, hfirst⟩ | ⟨coefficients, rfl, hok, h5⟩
  · simp only [herror]
    exact Or.inl ⟨fault, rfl, hfirst⟩
  rw [hok]
  rcases h5.readNumbers (Or.inr rfl) hbounds with
    ⟨fault, herror, hfirst⟩ | ⟨limits, rfl, hok, h6⟩
  · simp only [herror]
    exact Or.inl ⟨fault, rfl, hfirst⟩
  rw [hok]
  rcases h6.isFirst_unfit hrows hbounds with ⟨hlength, hnone⟩ | ⟨hlength, hfirst⟩
  · have hlength : coefficients.length = limits.length := by simpa using hlength
    have hdense := ofDense_of_length_eq (costs.map Json.Number.toFloat) maximize hlength
    refine Or.inr ⟨_, ?_, describes_numberedRows hobjective hdirection hrows hbounds hlength, hnone⟩
    simp only [bind, Except.bind, hdense]
    rfl
  · have hlength : coefficients.length ≠ limits.length := by simpa using hlength
    have hdense := ofDense_of_length_ne (costs.map Json.Number.toFloat) maximize hlength
    refine Or.inl ⟨_, ?_, hfirst⟩
    simp only [bind, Except.bind, hdense, List.length_map]

/-- A part that is missing is the first fault. -/
theorem isFirst_missing (h : Violates body .missing) : IsFirst body .missing :=
  Passes.isFirst (fun _ _ => Nat.zero_le _) h fun _ hother hstage hne =>
    absurd (hother.of_stage hstage) hne

/-- If no part is missing, one that is no array is the first fault. -/
theorem isFirst_notArrays (hparts : ¬ Violates body .missing) (h : Violates body .notArrays) :
    IsFirst body .notArrays := by
  have hpasses : Passes body 1 := fun other hother =>
    Nat.one_le_iff_ne_zero.mpr fun hstage => hparts (hother.of_stage hstage ▸ hother)
  exact hpasses.isFirst h fun _ hother hstage hne => absurd (hother.of_stage hstage) hne

/-- The parts are looked at for being arrays. -/
theorem readArrays_cases {objective rows bounds : Json} (ho : body.HasPart "objective" objective)
    (hr : body.HasPart "constraints" rows) (hb : body.HasPart "b" bounds) :
    (∃ fault, (match objective.array?, rows.array?, bounds.array? with
        | some objective, some rows, some bounds =>
          readParts (body.present? "isMaximization") objective rows bounds
        | _, _, _ => .error .notArrays) = .error fault ∧ IsFirst body fault) ∨
      ∃ p, (match objective.array?, rows.array?, bounds.array? with
        | some objective, some rows, some bounds =>
          readParts (body.present? "isMaximization") objective rows bounds
        | _, _, _ => .error .notArrays) = .ok p ∧ Describes body p ∧
          ∀ fault, ¬ Violates body fault := by
  have hparts : ¬ Violates body .missing := by
    rintro ⟨hname, hpart⟩
    simp only [requiredParts, List.mem_cons, List.not_mem_nil, or_false] at hname
    rcases hname with rfl | rfl | rfl
    · exact hpart _ ho
    · exact hpart _ hr
    · exact hpart _ hb
  have hnot {name : String} {part : Json} (hname : name ∈ requiredParts)
      (hpart : body.HasPart name part) (h : part.array? = none) : IsFirst body .notArrays :=
    isFirst_notArrays hparts (.notArrays hname hpart (Json.array?_eq_none_iff.mp h))
  cases hobjective : objective.array? with
  | none => exact Or.inl ⟨_, rfl, hnot (by simp [requiredParts]) ho hobjective⟩
  | some items =>
      cases hrows : rows.array? with
      | none => exact Or.inl ⟨_, rfl, hnot (by simp [requiredParts]) hr hrows⟩
      | some items' =>
          cases hbounds : bounds.array? with
          | none => exact Or.inl ⟨_, rfl, hnot (by simp [requiredParts]) hb hbounds⟩
          | some items'' =>
              rw [Json.array?_eq_some_iff.mp hobjective] at ho
              rw [Json.array?_eq_some_iff.mp hrows] at hr
              rw [Json.array?_eq_some_iff.mp hbounds] at hb
              exact readParts_cases ho hr hb

/-- **The reading of a body ends at its first fault**, or else the body describes what was read and
has no fault at all. -/
theorem readProblem_cases (body : Json) :
    (∃ fault, readProblem body = .error fault ∧ IsFirst body fault) ∨
      ∃ p, readProblem body = .ok p ∧ Describes body p ∧ ∀ fault, ¬ Violates body fault := by
  have hmissing {name : String} (hname : name ∈ requiredParts) (h : body.present? name = none) :
      IsFirst body .missing :=
    isFirst_missing (.missing hname (Json.present?_eq_none_iff.mp h))
  unfold readProblem
  cases ho : body.present? "objective" with
  | none => exact Or.inl ⟨_, rfl, hmissing (by simp [requiredParts]) ho⟩
  | some objective =>
      cases hr : body.present? "constraints" with
      | none => exact Or.inl ⟨_, rfl, hmissing (by simp [requiredParts]) hr⟩
      | some rows =>
          cases hb : body.present? "b" with
          | none => exact Or.inl ⟨_, rfl, hmissing (by simp [requiredParts]) hb⟩
          | some bounds =>
              rw [Json.present?_eq_some_iff] at ho hr hb
              dsimp only
              exact readArrays_cases ho hr hb

end Stages

/-- A body is read as what it describes. -/
theorem Describes.readProblem_eq {body : Json} {p : Problem Float} (h : Describes body p) :
    readProblem body = .ok p := by
  obtain ⟨⟨objective, hobjective, hcosts⟩, hdirection, coefficients, bounds, hrows, hbounds,
    hlength, hlength', hrow⟩ := h
  have hmaximize : readDirection (body.present? "isMaximization") = .ok p.maximize := by
    rcases hdirection with hpart | ⟨hnone, htrue⟩
    · rw [Json.present?_eq_some_iff.mpr hpart]
      rfl
    · rw [Json.present?_eq_none_iff.mpr hnone, htrue]
      rfl
  have hequal : coefficients.length = bounds.length := hlength.symm.trans hlength'
  have hp : p = ⟨objective.map Json.Number.toFloat, p.maximize, Problem.numberedRows
      (coefficients.map (List.map Json.Number.toFloat)) (bounds.map Json.Number.toFloat)⟩ := by
    obtain ⟨costs, maximize, rows⟩ := p
    obtain rfl : costs = objective.map Json.Number.toFloat := hcosts
    have hrows : rows = Problem.numberedRows (coefficients.map (List.map Json.Number.toFloat))
        (bounds.map Json.Number.toFloat) := by
      refine List.ext_getElem (by simpa [Problem.numberedRows, hequal] using hlength') ?_
      intro i hi _
      have hcs : i < coefficients.length := hlength ▸ hi
      have hb : i < bounds.length := hlength' ▸ hi
      rw [hrow i _ _ _ (List.getElem?_eq_getElem hi) (List.getElem?_eq_getElem hcs)
        (List.getElem?_eq_getElem hb)]
      simp [Problem.numberedRows]
    rw [hrows]
  have hreadCosts : readNumbers .objective (objective.map .number)
      = .ok (objective.map Json.Number.toFloat) := readNumbers_eq_ok_iff.mpr ⟨objective, rfl, rfl⟩
  have hreadRows : (coefficients.map fun row => Json.array (row.map .number)).zipIdx.mapM readRow
      = .ok (coefficients.map (List.map Json.Number.toFloat)) :=
    readRows_eq_ok_iff.mpr ⟨coefficients, rfl, rfl⟩
  have hreadBounds : readNumbers .bounds (bounds.map .number)
      = .ok (bounds.map Json.Number.toFloat) := readNumbers_eq_ok_iff.mpr ⟨bounds, rfl, rfl⟩
  have hdense := ofDense_of_length_eq (objective.map Json.Number.toFloat) p.maximize hequal
  unfold readProblem readParts
  rw [Json.present?_eq_some_iff.mpr hobjective, Json.present?_eq_some_iff.mpr hrows,
    Json.present?_eq_some_iff.mpr hbounds, hp]
  simp only [Json.array?, hmaximize, hreadCosts, hreadRows, hreadBounds, bind, Except.bind, hdense]
  rfl

theorem describes_iff {body : Json} {p : Problem Float} :
    Describes body p ↔ readProblem body = .ok p := by
  refine ⟨Describes.readProblem_eq, fun hok => ?_⟩
  rcases readProblem_cases body with ⟨fault, herror, -⟩ | ⟨q, hq, hdescribes, -⟩
  · cases herror.symm.trans hok
  · exact Except.ok.inj (hq.symm.trans hok) ▸ hdescribes

/-- A body describes one linear program at most. -/
theorem Describes.unique {body : Json} {p q : Problem Float} (h : Describes body p)
    (h' : Describes body q) : p = q := by
  rw [describes_iff] at h h'
  exact Except.ok.inj (h.symm.trans h')

/-! ### The wording -/

theorem message_notRow (i : ℕ) : (RequestFault.notRow i).message
    = "Invalid input: constraints[" ++ toString i ++ "] must be an array" := by
  show "Invalid input: " ++ ("constraints[" ++ toString i ++ "]") ++ " must be an array" = _
  simp [← String.toList_inj]

theorem message_notNumber_row (i j : ℕ) : (RequestFault.notNumber (.row i) j).message
    = "Invalid input: constraints[" ++ toString i ++ "][" ++ toString j
      ++ "] must be a number" := by
  show "Invalid input: " ++ ("constraints[" ++ toString i ++ "]") ++ "[" ++ toString j
    ++ "] must be a number" = _
  simp [← String.toList_inj]

theorem message_boundCount (rows bounds : ℕ) :
    (RequestFault.unfit (.boundCount rows bounds)).message
      = "Invalid input: " ++ toString rows ++ " constraint rows but " ++ toString bounds
        ++ " right-hand side values" := by
  show "Invalid input: " ++ (toString rows ++ " constraint rows but " ++ toString bounds
    ++ " right-hand side values") = _
  simp only [String.append_assoc]

/-- Every fault of a body is worded as spelled out. -/
theorem Violates.worded {body : Json} {fault : RequestFault} (h : Violates body fault) :
    Worded fault fault.message := by
  cases h with
  | missing _ _ => exact .missing
  | notArrays _ _ _ => exact .notArrays
  | notDirection _ _ => exact .notDirection
  | @number place hplace _ _ i _ _ _ =>
      rcases hplace with rfl | rfl
      · exact .objective i
      · exact .bounds i
  | @notRow _ _ i _ _ _ => exact message_notRow i ▸ .notRow i
  | @row _ _ i _ _ j _ _ _ => exact message_notNumber_row i j ▸ .row i j
  | @unfit rows bounds _ _ _ =>
      exact message_boundCount rows.length bounds.length ▸ .unfit rows.length bounds.length

/-- **A body is read exactly if it describes a linear program**, and otherwise its first fault is
reported, to the client as a fault of its own. -/
theorem readProblem_spec (body : Json) :
    (∀ p, readProblem body = .ok p ↔ Describes body p) ∧
      (∀ fault, readProblem body = .error fault ↔ IsFirst body fault) ∧
      ∀ service : Service, ∀ fault, IsFirst body fault → ∃ wording, Worded fault wording ∧
        (∃ failure, (solve service.solver body).result = .error failure ∧ failure.status = 400 ∧
          failure.message = wording) ∧
        ∀ r, PostsTo r .simplex → r.readBody = .ok body →
          (service.respond r).result = refusal 400 wording := by
  have herror (fault : RequestFault) : readProblem body = .error fault ↔ IsFirst body fault := by
    rcases readProblem_cases body with ⟨found, herror, hfirst⟩ | ⟨p, hok, -, hnone⟩
    · rw [herror]
      constructor
      · intro h
        exact Except.error.inj h ▸ hfirst
      · intro h
        rw [hfirst.unique h]
    · rw [hok]
      exact iff_of_false nofun fun h => hnone fault h.1
  refine ⟨fun p => describes_iff.symm, herror, fun service fault h => ?_⟩
  have hsolve : (solve service.solver body).result = .error (.unintelligible fault) := by
    simp only [solve, (herror fault).mpr h]
    rfl
  refine ⟨fault.message, h.1.worded, ⟨.unintelligible fault, hsolve, rfl, rfl⟩, ?_⟩
  intro r hposts hread
  rw [respond_post_eq hposts, hread]
  show resultResponse (service.result body .simplex) = _
  rw [resultResponse_result, answerTo, hsolve]
  rfl

/-- Of two items that are no numbers, the one in the objective is reported. -/
example : readProblem (.object [("b", .array [.string "1"]), ("constraints", .array []),
    ("objective", .array [.number (.integer 1), .null])])
      = .error (.notNumber .objective 1) := rfl

end Service

end Baggage
