import Depot.Blobs.Disk
import Depot.Proofs.Lookup
import Mathlib.Data.List.Infix
import Mathlib.Data.List.TakeWhile

/-!
# Where paths lead in a tree of files

Idle steps do not count: a path leads to the place of its names.  What is found there, what
can be written there and what is removed from there depends on the nodes at that place and
above it, and on the text of the path, which is refused where it is too long or not plain.
-/

set_option autoImplicit false

namespace Depot.Blobs

/-- The steps that go down by a name. -/
def downward (steps : List String) : List String := steps.filter (!isIdle ·)

theorem names_eq (path : String) : names path = downward (Text.segments path) := rfl

theorem downward_append (first second : List String) :
    downward (first ++ second) = downward first ++ downward second := List.filter_append ..

theorem downward_singleton {step : String} (down : isIdle step = false) :
    downward [step] = [step] := by
  simp [downward, down]

theorem isIdle_of_isEmpty {step : String} (empty : step.isEmpty = true) : isIdle step = true := by
  simp [isIdle, empty]

/-! ## Trimming and taking apart -/

theorem exists_append_trimIdle (steps : List String) :
    ∃ idle, steps = trimIdle steps ++ idle ∧ ∀ step ∈ idle, isIdle step = true := by
  refine ⟨(steps.reverse.takeWhile isIdle).reverse, ?_, fun step member => ?_⟩
  · rw [trimIdle, ← List.reverse_append, List.takeWhile_append_dropWhile, List.reverse_reverse]
  · exact List.mem_takeWhile_imp (List.mem_reverse.1 member)

theorem downward_idle {steps : List String} (idle : ∀ step ∈ steps, isIdle step = true) :
    downward steps = [] := by
  rw [downward, List.filter_eq_nil_iff]
  intro step member
  simp [idle step member]

theorem downward_trimIdle (steps : List String) : downward (trimIdle steps) = downward steps := by
  obtain ⟨idle, whole, all⟩ := exists_append_trimIdle steps
  conv_rhs => rw [whole, downward_append, downward_idle all, List.append_nil]

theorem isPrefix_trimIdle (steps : List String) : trimIdle steps <+: steps := by
  obtain ⟨idle, whole, -⟩ := exists_append_trimIdle steps
  exact ⟨idle, whole.symm⟩

theorem trimIdle_cases (steps : List String) :
    trimIdle steps = [] ∨ ∃ front last, trimIdle steps = front ++ [last] ∧ isIdle last = false := by
  cases rest : steps.reverse.dropWhile isIdle with
  | nil => exact .inl (by rw [trimIdle, rest]; rfl)
  | cons last front =>
    refine .inr ⟨front.reverse, last, by rw [trimIdle, rest, List.reverse_cons], ?_⟩
    have head := List.head_dropWhile_not isIdle (l := steps.reverse) (by rw [rest]; simp)
    simpa [rest] using head

theorem isPrefix_above (steps : List String) : above steps <+: steps :=
  (isPrefix_trimIdle _).trans ((List.dropLast_prefix _).trans (isPrefix_trimIdle _))

theorem downward_above (steps : List String) :
    downward (above steps) = (downward steps).dropLast := by
  rw [above, downward_trimIdle, ← downward_trimIdle steps]
  rcases trimIdle_cases steps with none | ⟨front, last, whole, down⟩
  · rw [none]
    rfl
  · rw [whole, List.dropLast_concat, downward_append, downward_singleton down,
      List.dropLast_concat]

namespace Disk

theorem downward_route (steps : List String) :
    downward steps = downward (route steps).before ++ downward [(route steps).last] := by
  have whole : steps = (steps.reverse.dropWhile String.isEmpty).reverse ++
      (steps.reverse.takeWhile String.isEmpty).reverse := by
    rw [← List.reverse_append, List.takeWhile_append_dropWhile, List.reverse_reverse]
  have none : downward (steps.reverse.takeWhile String.isEmpty).reverse = [] :=
    downward_idle fun step member =>
      isIdle_of_isEmpty (List.mem_takeWhile_imp (List.mem_reverse.1 member))
  conv_lhs => rw [whole, downward_append, none, List.append_nil]
  unfold route
  cases steps.reverse.dropWhile String.isEmpty with
  | nil => rfl
  | cons last before => rw [List.reverse_cons, downward_append]

/-- Steps are taken apart into those before their last one and that one, unless they end with
empty ones. -/
theorem route_open {steps : List String} (opened : (route steps).closed = false) :
    steps = (route steps).before ++ [(route steps).last] := by
  unfold route at opened ⊢
  cases rest : steps.reverse.dropWhile String.isEmpty with
  | nil =>
    rw [rest] at opened
    simp at opened
  | cons last before =>
    rw [rest] at opened
    have whole : steps.reverse.dropWhile String.isEmpty = steps.reverse := by
      cases reversed : steps.reverse with
      | nil => rfl
      | cons first others =>
        simp only [decide_eq_false_iff_not, List.getLast?_eq_head?_reverse, reversed,
          List.head?_cons, Option.some.injEq] at opened
        simp [opened]
    rw [whole] at rest
    simpa using congrArg List.reverse rest

theorem route_concat {front : List String} {last : String} (down : isIdle last = false) :
    route (front ++ [last]) = ⟨front, last, false⟩ := by
  have filled : last.isEmpty = false := by
    cases empty : last.isEmpty with
    | false => rfl
    | true => rw [isIdle_of_isEmpty empty] at down; contradiction
  have named : last ≠ "" := by
    rintro rfl
    simp [isIdle] at down
  simp [route, filled, named]

/-! ## Nodes -/

variable {disk : Disk}

theorem node?_of_ne_nil (disk : Disk) {place : List String} (below : place ≠ []) :
    disk.node? place = disk.entries.lookup place := by
  cases place with
  | nil => contradiction
  | cons name rest => rfl

theorem node?_fresh (root : Nat) {place : List String} (below : place ≠ []) :
    (⟨[], root⟩ : Disk).node? place = none := by
  rw [node?_of_ne_nil _ below]
  rfl

theorem node?_eq_update {changed : Disk} {place : List String} (below : place ≠ [])
    {node : Option Node}
    (entries : (changed.entries.lookup ·) = Function.update (disk.entries.lookup ·) place node) :
    changed.node? = Function.update disk.node? place node := by
  funext other
  cases other with
  | nil => simp [node?, Ne.symm below]
  | cons name rest =>
    rw [node?_of_ne_nil _ (List.cons_ne_nil _ _)]
    refine (congrFun entries (name :: rest)).trans ?_
    by_cases same : name :: rest = place
    · simp [same]
    · simp [same, node?_of_ne_nil]

theorem node?_set {place : List String} (below : place ≠ []) (node : Node) :
    (disk.set place node).node? = Function.update disk.node? place (some node) :=
  node?_eq_update below (lookup_put (setEntry place node) rfl (fun _ _ => rfl) disk.entries)

theorem node?_clear {place : List String} (below : place ≠ []) :
    (disk.clear place).node? = Function.update disk.node? place none :=
  node?_eq_update below (lookup_filter_ne place disk.entries)

theorem not_isPrefix_dropLast {place : List String} (below : place ≠ []) :
    ¬ place <+: place.dropLast := by
  intro part
  have longer := part.length_le
  have positive := List.length_pos_iff.2 below
  rw [List.length_dropLast] at longer
  omega

/-- A place is a directory, and so is every place above it. -/
def Paved (disk : Disk) (place : List String) : Prop :=
  ∀ front, front ≠ [] → front <+: place → disk.node? front = some .directory

/-- Neither a place nor a place above it is a file. -/
def Unblocked (disk : Disk) (place : List String) : Prop :=
  ∀ front, front ≠ [] → front <+: place → ∀ bytes, disk.node? front ≠ some (.file bytes)

theorem Paved.above {front place : List String} (paved : disk.Paved place)
    (part : front <+: place) : disk.Paved front :=
  fun inner some deeper => paved inner some (deeper.trans part)

theorem Unblocked.above {front place : List String} (free : disk.Unblocked place)
    (part : front <+: place) : disk.Unblocked front :=
  fun inner some deeper => free inner some (deeper.trans part)

theorem Paved.unblocked {place : List String} (paved : disk.Paved place) :
    disk.Unblocked place := by
  intro front some part bytes
  rw [paved front some part]
  simp

theorem Paved.node? {place : List String} (paved : disk.Paved place) :
    disk.node? place = some .directory := by
  cases place with
  | nil => rfl
  | cons name rest => exact paved _ (List.cons_ne_nil _ _) List.prefix_rfl

theorem Paved.of_dropLast {place : List String} (paved : disk.Paved place.dropLast)
    (found : disk.node? place = some .directory) : disk.Paved place := by
  intro front some part
  by_cases here : front = place
  · rw [here]
    exact found
  · have below : place ≠ [] := by
      rintro rfl
      exact here (List.prefix_nil.1 part)
    rw [← List.dropLast_concat_getLast below] at part here
    exact paved front some ((List.prefix_concat_iff.1 part).resolve_left here)

theorem Paved.set {place spot : List String} {node : Node} (paved : disk.Paved place)
    (below : spot ≠ []) (absent : disk.node? spot ≠ some .directory) :
    (disk.set spot node).Paved place := by
  intro front some part
  have other : front ≠ spot := by
    rintro rfl
    exact absent (paved front some part)
  rw [node?_set below, Function.update_of_ne other]
  exact paved front some part

/-! ## Walking -/

/-- Whoever comes down has passed through directories with names that are short enough. -/
theorem walk_ok {steps place goal : List String} (walked : disk.walk place steps = .ok goal) :
    goal = place ++ downward steps ∧
      (∀ name ∈ downward steps, name.utf8ByteSize ≤ maxName) ∧
      ∀ front, front ≠ [] → front <+: downward steps →
        disk.node? (place ++ front) = some .directory := by
  induction steps generalizing place with
  | nil =>
    rw [walk, Except.ok.injEq] at walked
    refine ⟨by simp [walked, downward], by simp [downward], fun front some part => ?_⟩
    exact absurd (List.prefix_nil.1 part) some
  | cons step rest ih =>
    rw [walk] at walked
    by_cases idle : isIdle step = true
    · rw [if_pos idle] at walked
      have same : downward (step :: rest) = downward rest := by simp [downward, idle]
      rw [same]
      exact ih walked
    · rw [if_neg idle] at walked
      have down : downward (step :: rest) = step :: downward rest := by simp [downward, idle]
      rw [down]
      unfold look at walked
      by_cases long : maxName < step.utf8ByteSize
      · simp [long] at walked
      · rw [if_neg long] at walked
        cases found : disk.node? (place ++ [step]) with
        | none => simp [found] at walked
        | some node =>
          rw [found] at walked
          cases node with
          | file bytes => simp at walked
          | directory =>
            obtain ⟨goal, sizes, directories⟩ := ih walked
            refine ⟨by simp [goal], ?_, ?_⟩
            · simpa using ⟨Nat.not_lt.1 long, sizes⟩
            · intro front some part
              cases front with
              | nil => contradiction
              | cons first more =>
                obtain ⟨rfl, deeper⟩ := List.cons_prefix_cons.1 part
                cases more with
                | nil => exact found
                | cons second others =>
                  simpa using directories (second :: others) (List.cons_ne_nil _ _) deeper

/-- Without a file on the way, one comes down or finds an entry missing. -/
theorem walk_cases {steps place : List String}
    (sizes : ∀ name ∈ downward steps, name.utf8ByteSize ≤ maxName)
    (free : ∀ front, front ≠ [] → front <+: downward steps →
      ∀ bytes, disk.node? (place ++ front) ≠ some (.file bytes)) :
    disk.walk place steps = .ok (place ++ downward steps) ∨
      disk.walk place steps = .error .noEntry ∧
        ∃ front, front ≠ [] ∧ front <+: downward steps ∧ disk.node? (place ++ front) = none := by
  induction steps generalizing place with
  | nil => simp [walk, downward]
  | cons step rest ih =>
    rw [walk]
    by_cases idle : isIdle step = true
    · have same : downward (step :: rest) = downward rest := by simp [downward, idle]
      rw [if_pos idle, same]
      exact ih (same ▸ sizes) (same ▸ free)
    · have down : downward (step :: rest) = step :: downward rest := by simp [downward, idle]
      rw [down] at sizes free ⊢
      have short : ¬ maxName < step.utf8ByteSize := Nat.not_lt.2 (sizes step (.head _))
      rw [if_neg idle, look, if_neg short]
      cases found : disk.node? (place ++ [step]) with
      | none => exact .inr ⟨rfl, [step], by simp, by simp, found⟩
      | some node =>
        cases node with
        | file bytes => exact absurd found (free [step] (by simp) (by simp) bytes)
        | directory =>
          have deeper : ∀ front, front ≠ [] → front <+: downward rest →
              ∀ bytes, disk.node? (place ++ [step] ++ front) ≠ some (.file bytes) := by
            intro front some part bytes
            simpa using free (step :: front) (by simp) (by simpa using part) bytes
          rcases ih (fun name member => sizes name (.tail _ member)) deeper with
            down | ⟨stopped, front, some, part, missing⟩
          · exact .inl (by simpa using down)
          · exact .inr ⟨stopped, step :: front, by simp, by simpa using part, by simpa using missing⟩

theorem walk_paved {steps : List String}
    (sizes : ∀ name ∈ downward steps, name.utf8ByteSize ≤ maxName)
    (paved : disk.Paved (downward steps)) : disk.walk [] steps = .ok (downward steps) := by
  rcases @walk_cases disk steps [] sizes paved.unblocked with
    down | ⟨-, front, some, part, missing⟩
  · exact down
  · rw [List.nil_append, paved front some part] at missing
    contradiction

theorem look_short {place : List String} {name : String} (short : name.utf8ByteSize ≤ maxName) :
    disk.look place name = match disk.node? (place ++ [name]) with
      | some node => .ok node
      | none => .error .noEntry := by
  have fits : ¬ maxName < name.utf8ByteSize := Nat.not_lt.2 short
  cases found : disk.node? (place ++ [name]) <;> simp [look, found, fits]

theorem look_ok {place : List String} {name : String} {node : Node}
    (looked : disk.look place name = .ok node) :
    name.utf8ByteSize ≤ maxName ∧ disk.node? (place ++ [name]) = some node := by
  unfold look at looked
  by_cases long : maxName < name.utf8ByteSize
  · simp [long] at looked
  · rw [if_neg long] at looked
    refine ⟨Nat.not_lt.1 long, ?_⟩
    cases found : disk.node? (place ++ [name]) with
    | none => simp [found] at looked
    | some other => simpa [found] using looked

/-! ## Texts of paths -/

/-- A text below a root of some length is not refused before any name is looked up. -/
def Fits (root : Nat) (steps : List String) : Prop := checkText ⟨[], root⟩ steps = .ok ()

theorem checkText_ok (disk : Disk) {steps : List String} :
    disk.checkText steps = .ok () ↔ Fits disk.rootLength steps := .rfl

/-- Steps that a file can be stored at below a root of some length: they fit, end by going
down, and have short names. -/
structure Filed (root : Nat) (steps : List String) : Prop where
  fits : Fits root steps
  down : ∃ front last, steps = front ++ [last] ∧ isIdle last = false
  sizes : ∀ name ∈ downward steps, name.utf8ByteSize ≤ maxName

theorem Filed.parts {root : Nat} {steps : List String} (filed : Filed root steps) :
    ∃ front last, route steps = ⟨front, last, false⟩ ∧ isIdle last = false ∧
      downward steps = downward front ++ [last] ∧ last.utf8ByteSize ≤ maxName ∧
      ∀ name ∈ downward front, name.utf8ByteSize ≤ maxName := by
  obtain ⟨front, last, rfl, down⟩ := filed.down
  have named : downward (front ++ [last]) = downward front ++ [last] := by
    rw [downward_append, downward_singleton down]
  have sizes := filed.sizes
  rw [named] at sizes
  refine ⟨front, last, route_concat down, down, named, sizes last (by simp), ?_⟩
  intro name member
  exact sizes name (List.mem_append_left _ member)

/-! ## Approaching the last step -/

/-- The place that the steps before the last one lead to. -/
def approach (disk : Disk) (steps : List String) : Except DiskFault (List String) := do
  disk.checkText steps
  disk.walk [] (route steps).before

theorem approach_ok {steps place : List String} (approached : disk.approach steps = .ok place) :
    Fits disk.rootLength steps ∧ place = downward (route steps).before ∧ disk.Paved place ∧
      ∀ name ∈ place, name.utf8ByteSize ≤ maxName := by
  unfold approach at approached
  cases checked : disk.checkText steps with
  | error fault => simp [checked, bind, Except.bind] at approached
  | ok fits =>
    simp only [checked, bind, Except.bind] at approached
    obtain ⟨rfl, sizes, paved⟩ := walk_ok approached
    exact ⟨checked, List.nil_append _, paved, sizes⟩

theorem approach_paved {steps front : List String} {last : String} {closed : Bool}
    (fits : Fits disk.rootLength steps) (parts : route steps = ⟨front, last, closed⟩)
    (sizes : ∀ name ∈ downward front, name.utf8ByteSize ≤ maxName)
    (paved : disk.Paved (downward front)) : disk.approach steps = .ok (downward front) := by
  rw [approach, (checkText_ok disk).2 fits, parts]
  exact walk_paved sizes paved

theorem approach_cases {steps front : List String} {last : String} {closed : Bool}
    (fits : Fits disk.rootLength steps) (parts : route steps = ⟨front, last, closed⟩)
    (sizes : ∀ name ∈ downward front, name.utf8ByteSize ≤ maxName)
    (free : disk.Unblocked (downward front)) :
    disk.approach steps = .ok (downward front) ∨ disk.approach steps = .error .noEntry := by
  rw [approach, (checkText_ok disk).2 fits, parts]
  rcases @walk_cases disk front [] sizes free with down | ⟨stopped, -⟩
  · exact .inl down
  · exact .inr stopped

theorem find_eq (disk : Disk) (steps : List String) :
    disk.find steps = (do
      let place ← disk.approach steps
      if isIdle (route steps).last then return .directory
      match ← disk.look place (route steps).last with
      | .file bytes => if (route steps).closed then .error .notDirectory else return .file bytes
      | .directory => return .directory) := by
  unfold find approach
  cases disk.checkText steps <;> rfl

theorem placeToWrite_eq (disk : Disk) (steps : List String) :
    disk.placeToWrite steps = (do
      let place ← disk.approach steps
      if isIdle (route steps).last || (route steps).closed then .error .isDirectory
      else
        match disk.look place (route steps).last with
        | .ok .directory => .error .isDirectory
        | .ok (.file _) => return place ++ [(route steps).last]
        | .error .noEntry => return place ++ [(route steps).last]
        | .error fault => .error fault) := by
  unfold placeToWrite approach
  cases disk.checkText steps <;> rfl

theorem placeToRemove_eq (disk : Disk) (steps : List String) :
    disk.placeToRemove steps = (do
      let place ← disk.approach steps
      if isIdle (route steps).last then .error .isDirectory
      else
        match ← disk.look place (route steps).last with
        | .directory => .error .isDirectory
        | .file _ =>
          if (route steps).closed then .error .notDirectory
          else return place ++ [(route steps).last]) := by
  unfold placeToRemove approach
  cases disk.checkText steps <;> rfl

theorem makeDirectory_eq (disk : Disk) (steps : List String) :
    disk.makeDirectory steps = (do
      let place ← disk.approach steps
      if isIdle (route steps).last then .error .alreadyThere
      else
        match disk.look place (route steps).last with
        | .ok _ => .error .alreadyThere
        | .error .noEntry => return disk.set (place ++ [(route steps).last]) .directory
        | .error fault => .error fault) := by
  unfold makeDirectory approach
  cases disk.checkText steps <;> rfl

theorem filed_of_approach {steps place : List String}
    (approached : disk.approach steps = .ok place) (down : isIdle (route steps).last = false)
    (opened : (route steps).closed = false)
    (short : (route steps).last.utf8ByteSize ≤ maxName) :
    Filed disk.rootLength steps ∧ downward steps = place ++ [(route steps).last] := by
  obtain ⟨fits, rfl, -, sizes⟩ := approach_ok approached
  have named : downward steps = downward (route steps).before ++ [(route steps).last] := by
    rw [downward_route, downward_singleton down]
  refine ⟨⟨fits, ⟨_, _, route_open opened, down⟩, ?_⟩, named⟩
  rw [named]
  intro name member
  rcases List.mem_append.1 member with before | last
  · exact sizes name before
  · rw [List.mem_singleton.1 last]
    exact short

/-! ## Finding -/

theorem find_ok {steps : List String} {node : Node} (found : disk.find steps = .ok node) :
    Fits disk.rootLength steps ∧ disk.Paved (downward steps).dropLast ∧
      disk.node? (downward steps) = some node ∧
      (∀ bytes, node = .file bytes → Filed disk.rootLength steps) := by
  rw [find_eq] at found
  cases approached : disk.approach steps with
  | error fault => simp [approached, bind, Except.bind] at found
  | ok place =>
    obtain ⟨fits, rfl, paved, -⟩ := approach_ok approached
    simp only [approached, bind, Except.bind] at found
    refine ⟨fits, ?_⟩
    by_cases idle : isIdle (route steps).last = true
    · simp only [idle, if_true, pure, Except.pure, Except.ok.injEq] at found
      subst found
      have none : downward [(route steps).last] = [] := by simp [downward, idle]
      rw [downward_route, none, List.append_nil]
      exact ⟨paved.above (List.dropLast_prefix _), paved.node?, by simp⟩
    · have down : isIdle (route steps).last = false := by simpa using idle
      rw [if_neg idle] at found
      rw [downward_route, downward_singleton down, List.dropLast_concat]
      refine ⟨paved, ?_⟩
      cases looked : disk.look (downward (route steps).before) (route steps).last with
      | error fault => simp [looked] at found
      | ok other =>
        obtain ⟨short, there⟩ := look_ok looked
        rw [looked] at found
        cases other with
        | directory =>
          simp only [pure, Except.pure, Except.ok.injEq] at found
          subst found
          exact ⟨there, by simp⟩
        | file bytes =>
          cases closed : (route steps).closed with
          | true => simp [closed] at found
          | false =>
            simp only [closed, pure, Except.pure] at found
            cases found
            exact ⟨there, fun _ _ => (filed_of_approach approached down closed short).1⟩

theorem find_filed {steps : List String} (filed : Filed disk.rootLength steps)
    (paved : disk.Paved (downward steps).dropLast) :
    disk.find steps = match disk.node? (downward steps) with
      | some node => .ok node
      | none => .error .noEntry := by
  obtain ⟨front, last, parts, down, named, short, sizes⟩ := filed.parts
  rw [named, List.dropLast_concat] at paved
  rw [find_eq, approach_paved filed.fits parts sizes paved, named]
  simp only [bind, Except.bind, parts, down, look_short short]
  cases disk.node? (downward front ++ [last]) with
  | none => rfl
  | some node => cases node <;> rfl

theorem find_none {steps : List String} (filed : Filed disk.rootLength steps)
    (free : disk.Unblocked (downward steps).dropLast)
    (missing : disk.node? (downward steps) = none) : disk.find steps = .error .noEntry := by
  obtain ⟨front, last, parts, down, named, short, sizes⟩ := filed.parts
  rw [named, List.dropLast_concat] at free
  rw [named] at missing
  rw [find_eq]
  rcases approach_cases filed.fits parts sizes free with there | stopped
  · simp [there, bind, Except.bind, parts, down, look_short short, missing]
  · simp [stopped, bind, Except.bind]

theorem find_directory {steps : List String} (fits : Fits disk.rootLength steps)
    (sizes : ∀ name ∈ downward steps, name.utf8ByteSize ≤ maxName)
    (paved : disk.Paved (downward steps)) : disk.find steps = .ok .directory := by
  have named := downward_route steps
  cases parts : route steps with
  | mk front last closed =>
    rw [parts] at named
    have before : downward front <+: downward steps := ⟨_, named.symm⟩
    rw [find_eq, approach_paved fits parts (fun name member => sizes name (before.subset member))
      (paved.above before)]
    simp only [bind, Except.bind, parts]
    cases idle : isIdle last with
    | true => rfl
    | false =>
      rw [downward_singleton idle] at named
      have short : last.utf8ByteSize ≤ maxName := sizes _ (by rw [named]; simp)
      simp [look_short short, ← named, paved.node?, pure, Except.pure]

/-! ## Writing and removing -/

theorem placeToWrite_ok_iff {steps place : List String} :
    disk.placeToWrite steps = .ok place ↔
      Filed disk.rootLength steps ∧ disk.Paved (downward steps).dropLast ∧
        disk.node? (downward steps) ≠ some .directory ∧ place = downward steps := by
  rw [placeToWrite_eq]
  constructor
  · intro placed
    cases approached : disk.approach steps with
    | error fault => simp [approached, bind, Except.bind] at placed
    | ok above =>
      simp only [approached, bind, Except.bind] at placed
      cases idle : isIdle (route steps).last with
      | true => simp [idle] at placed
      | false =>
        cases closed : (route steps).closed with
        | true => simp [closed] at placed
        | false =>
          obtain ⟨-, -, paved, -⟩ := approach_ok approached
          simp only [idle, closed, Bool.or_self] at placed
          unfold look at placed
          by_cases long : maxName < (route steps).last.utf8ByteSize
          · simp [long] at placed
          · obtain ⟨filed, named⟩ := filed_of_approach approached idle closed (Nat.not_lt.1 long)
            rw [if_neg long, ← named] at placed
            rw [named, List.dropLast_concat, ← named]
            refine ⟨filed, paved, ?_⟩
            cases found : disk.node? (downward steps) with
            | none => simpa [found, pure, Except.pure, eq_comm] using placed
            | some node =>
              cases node with
              | directory => simp [found] at placed
              | file bytes => simpa [found, pure, Except.pure, eq_comm] using placed
  · rintro ⟨filed, paved, noDirectory, rfl⟩
    obtain ⟨front, last, parts, down, named, short, sizes⟩ := filed.parts
    rw [named, List.dropLast_concat] at paved
    rw [named] at noDirectory ⊢
    rw [approach_paved filed.fits parts sizes paved]
    simp only [bind, Except.bind, parts, down, look_short short]
    cases found : disk.node? (downward front ++ [last]) with
    | none => rfl
    | some node =>
      cases node with
      | directory => exact absurd found noDirectory
      | file bytes => rfl

theorem placeToRemove_ok {steps place : List String}
    (placed : disk.placeToRemove steps = .ok place) :
    Filed disk.rootLength steps ∧ place = downward steps := by
  rw [placeToRemove_eq] at placed
  cases approached : disk.approach steps with
  | error fault => simp [approached, bind, Except.bind] at placed
  | ok above =>
    simp only [approached, bind, Except.bind] at placed
    cases idle : isIdle (route steps).last with
    | true => simp [idle] at placed
    | false =>
      cases looked : disk.look above (route steps).last with
      | error fault => simp [idle, looked] at placed
      | ok node =>
        cases node with
        | directory => simp [idle, looked] at placed
        | file bytes =>
          cases closed : (route steps).closed with
          | true => simp [idle, looked, closed] at placed
          | false =>
            obtain ⟨filed, named⟩ := filed_of_approach approached idle closed (look_ok looked).1
            refine ⟨filed, ?_⟩
            simpa [idle, looked, closed, named, pure, Except.pure, eq_comm] using placed

theorem placeToRemove_file {steps : List String} {bytes : ByteArray}
    (filed : Filed disk.rootLength steps) (paved : disk.Paved (downward steps).dropLast)
    (found : disk.node? (downward steps) = some (.file bytes)) :
    disk.placeToRemove steps = .ok (downward steps) := by
  obtain ⟨front, last, parts, down, named, short, sizes⟩ := filed.parts
  rw [named, List.dropLast_concat] at paved
  rw [named] at found ⊢
  rw [placeToRemove_eq, approach_paved filed.fits parts sizes paved]
  simp [bind, Except.bind, parts, down, look_short short, found, pure, Except.pure]

end Disk

end Depot.Blobs
