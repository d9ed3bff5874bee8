import Depot.Proofs.Files.PathText
import Depot.Proofs.Text.Literals
import Depot.Service.Config

/-!
# Configurations that are accepted

Seven items of a configuration are looked at in an order, and the first one that is not as it has to
be is complained of.  A configuration that is accepted signs with a secret of its own in production.
Its environment fits into paths, so that only an owner or a filename can keep one from being made.
-/

set_option autoImplicit false

namespace Depot.Service.Config

/-! ## Items -/

inductive Item
  | databaseUrl
  | port
  | environment
  | signingSecret
  | replaceStrategy
  | cascade
  | maxUploadBytes
deriving DecidableEq, Repr

namespace Item

variable {lookup : String → Option String} {item : Item} {reason other : String}

/-- The items in the order in which they are looked at. -/
def inOrder : List Item :=
  [databaseUrl, port, environment, signingSecret, replaceStrategy, cascade, maxUploadBytes]

/-- A text is a whole number up to a limit, with a plus or without. -/
def Numeral (largest : Nat) (given : String) : Prop :=
  ∃ n, Text.NaturalForm given.toList n ∧ n ≤ largest

/-- The variables of an item are as they have to be. -/
def Met (lookup : String → Option String) : Item → Prop
  | databaseUrl => lookup "DATABASE_URL" ≠ none
  | port => ∀ given ∈ lookup "PORT", Numeral Text.maxWord16 given
  | environment => ∀ given ∈ lookup "APP_ENV", given ∈ ["development", "production", "test"]
  | signingSecret =>
    (∃ secret ∈ lookup "STORAGE_SIGNING_SECRET", secret ≠ "") ∨ lookup "APP_ENV" ≠ some "production"
  | replaceStrategy =>
    ∀ given ∈ lookup "UPLOAD_REPLACE_STRATEGY", given ∈ ["delete-then-upload", "upload-then-swap"]
  | cascade => ∀ given ∈ lookup "CASCADE_CONTINUE_ON_FAILURE", given ∈ ["true", "false"]
  | maxUploadBytes => ∀ given ∈ lookup "MAX_UPLOAD_BYTES", Numeral Text.maxWord64 given

/-- What is said of an item that is not met. -/
inductive Complains (lookup : String → Option String) : Item → String → Prop
  | databaseUrl : Complains lookup databaseUrl "DATABASE_URL must be set"
  | port {given : String} {fault : Text.LiteralFault} (there : lookup "PORT" = some given)
    (unread : Text.unsigned Text.maxWord16 given = .error fault) :
    Complains lookup port ("PORT must be a valid u16: " ++ fault.message)
  | environment {given : String} (there : lookup "APP_ENV" = some given) :
    Complains lookup environment
      ("APP_ENV must be one of development, production, test, got " ++ given)
  | signingSecret :
    Complains lookup signingSecret "STORAGE_SIGNING_SECRET must be set in production"
  | replaceStrategy {given : String} (there : lookup "UPLOAD_REPLACE_STRATEGY" = some given) :
    Complains lookup replaceStrategy
      ("UPLOAD_REPLACE_STRATEGY: " ++ ("validation error: " ++
        ("unknown replace strategy: " ++ given)))
  | cascade :
    Complains lookup cascade ("CASCADE_CONTINUE_ON_FAILURE: " ++ Text.boolMessage)
  | maxUploadBytes {given : String} {fault : Text.LiteralFault}
    (there : lookup "MAX_UPLOAD_BYTES" = some given)
    (unread : Text.unsigned Text.maxWord64 given = .error fault) :
    Complains lookup maxUploadBytes ("MAX_UPLOAD_BYTES: " ++ fault.message)

theorem Complains.unique (first : item.Complains lookup reason)
    (second : item.Complains lookup other) : reason = other := by
  cases first with
  | databaseUrl =>
    cases second
    rfl
  | port there unread =>
    cases second with
    | port again still =>
      obtain rfl := Option.some.inj (there.symm.trans again)
      obtain rfl := Except.error.inj (unread.symm.trans still)
      rfl
  | environment there =>
    cases second with
    | environment again => rw [Option.some.inj (there.symm.trans again)]
  | signingSecret =>
    cases second
    rfl
  | replaceStrategy there =>
    cases second with
    | replaceStrategy again => rw [Option.some.inj (there.symm.trans again)]
  | cascade =>
    cases second
    rfl
  | maxUploadBytes there unread =>
    cases second with
    | maxUploadBytes again still =>
      obtain rfl := Option.some.inj (there.symm.trans again)
      obtain rfl := Except.error.inj (unread.symm.trans still)
      rfl

end Item

/-! ## One item -/

section Items

variable {α β : Type} {lookup : String → Option String} {item : Item} {items : List Item}

/-- An item is met and its value read, or it is complained of. -/
inductive Checked (lookup : String → Option String) (item : Item) : Except String α → Prop
  | met {value : α} (met : item.Met lookup) : Checked lookup item (.ok value)
  | unmet {reason : String} (unmet : ¬ item.Met lookup) (complains : item.Complains lookup reason) :
    Checked lookup item (.error reason)

theorem checked_given {name : String} {Fits : String → Prop} {read : Option String → Except String α}
    (asks : item.Met lookup ↔ ∀ given ∈ lookup name, Fits given)
    (absent : ∃ value, read none = .ok value)
    (fits : ∀ given, Fits given → ∃ value, read (some given) = .ok value)
    (unfit : ∀ given, ¬ Fits given → lookup name = some given →
      ∃ reason, read (some given) = .error reason ∧ item.Complains lookup reason) :
    Checked lookup item (read (lookup name)) := by
  cases there : lookup name with
  | none =>
    obtain ⟨value, passed⟩ := absent
    rw [passed]
    exact .met (asks.2 (by simp [there]))
  | some given =>
    have asks : item.Met lookup ↔ Fits given := by
      rw [asks, there]
      simp
    by_cases right : Fits given
    · obtain ⟨value, passed⟩ := fits given right
      rw [passed]
      exact .met (asks.2 right)
    · obtain ⟨reason, refused, complains⟩ := unfit given right there
      rw [refused]
      exact .unmet (mt asks.1 right) complains

theorem exists_fault {largest : Nat} {given : String} (unfit : ¬ Item.Numeral largest given) :
    ∃ fault, Text.unsigned largest given = .error fault := by
  cases read : Text.unsigned largest given with
  | ok n => exact absurd ⟨n, Text.unsigned_eq_ok_iff.1 read⟩ unfit
  | error fault => exact ⟨fault, rfl⟩

theorem checked_port (lookup : String → Option String) :
    Checked lookup .port (portOf (lookup "PORT")) := by
  refine checked_given Iff.rfl ⟨3000, by decide⟩ ?_ ?_
  · rintro given ⟨n, numeral⟩
    rw [portOf, Option.getD_some, Text.unsigned_eq_ok_iff.2 numeral]
    exact ⟨_, rfl⟩
  · intro given unfit there
    obtain ⟨fault, unread⟩ := exists_fault unfit
    rw [portOf, Option.getD_some, unread]
    exact ⟨_, rfl, .port there unread⟩

theorem checked_environment (lookup : String → Option String) :
    Checked lookup .environment (environmentOf (lookup "APP_ENV")) := by
  refine checked_given Iff.rfl ⟨"development", by decide⟩ ?_ ?_
  · intro given known
    exact ⟨given, if_pos known⟩
  · intro given unknown there
    exact ⟨_, if_neg unknown, .environment there⟩

theorem checked_signingSecret {environment : String}
    (known : environment = (lookup "APP_ENV").getD "development") :
    Checked lookup .signingSecret
      (secretOf environment (lookup "STORAGE_SIGNING_SECRET")) := by
  have production : environment = "production" ↔ lookup "APP_ENV" = some "production" := by
    rw [known]
    cases lookup "APP_ENV" <;> simp
  rw [secretOf]
  cases given : (lookup "STORAGE_SIGNING_SECRET").filter (!·.isEmpty) with
  | some secret =>
    obtain ⟨there, filled⟩ := Option.filter_eq_some_iff.1 given
    exact .met (.inl ⟨secret, there, by simpa using filled⟩)
  | none =>
    -- an empty secret is as good as none, and in production neither will do
    dsimp only
    split_ifs with strict
    · refine .unmet ?_ .signingSecret
      rintro (⟨secret, there, filled⟩ | lax)
      · have kept := Option.filter_eq_none_iff.1 given secret there
        exact filled (by simpa using kept)
      · exact lax (production.1 strict)
    · exact .met (.inr (mt production.2 strict))

theorem checked_replaceStrategy (lookup : String → Option String) :
    Checked lookup .replaceStrategy (strategyOf (lookup "UPLOAD_REPLACE_STRATEGY")) := by
  refine checked_given Iff.rfl ⟨.deleteThenUpload, by decide⟩ ?_ ?_
  · intro given known
    simp only [List.mem_cons, List.not_mem_nil, or_false] at known
    rcases known with rfl | rfl
    · exact ⟨.deleteThenUpload, by decide⟩
    · exact ⟨.uploadThenSwap, by decide⟩
  · intro given unknown there
    simp only [List.mem_cons, List.not_mem_nil, or_false, not_or] at unknown
    have unread : Files.ReplaceStrategy.ofText? given = none := by
      unfold Files.ReplaceStrategy.ofText?
      split <;> simp_all
    refine ⟨_, ?_, .replaceStrategy there⟩
    rw [strategyOf, Option.getD_some, Files.ReplaceStrategy.parse, unread]
    rfl

theorem checked_cascade (lookup : String → Option String) :
    Checked lookup .cascade (cascadeOf (lookup "CASCADE_CONTINUE_ON_FAILURE")) := by
  refine checked_given Iff.rfl ⟨⟨true⟩, by decide⟩ ?_ ?_
  · intro given known
    simp only [List.mem_cons, List.not_mem_nil, or_false] at known
    rcases known with rfl | rfl
    · exact ⟨⟨true⟩, by decide⟩
    · exact ⟨⟨false⟩, by decide⟩
  · intro given unknown there
    simp only [List.mem_cons, List.not_mem_nil, or_false, not_or] at unknown
    have unread : Text.bool? given = none := by
      unfold Text.bool?
      split <;> simp_all
    refine ⟨_, ?_, .cascade⟩
    rw [cascadeOf, Option.getD_some, unread]

theorem checked_maxUploadBytes (lookup : String → Option String) :
    Checked lookup .maxUploadBytes (maxUploadBytesOf (lookup "MAX_UPLOAD_BYTES")) := by
  refine checked_given Iff.rfl ⟨usualMaxUploadBytes, rfl⟩ ?_ ?_
  · rintro given ⟨n, numeral⟩
    rw [maxUploadBytesOf, Text.unsigned_eq_ok_iff.2 numeral]
    exact ⟨_, rfl⟩
  · intro given unfit there
    obtain ⟨fault, unread⟩ := exists_fault unfit
    rw [maxUploadBytesOf, unread]
    exact ⟨_, rfl, .maxUploadBytes there unread⟩

/-! ## All items -/

/-- Items are looked at one after the other until one is not met. -/
inductive Reads (lookup : String → Option String) (Holds : β → Prop) :
    List Item → Except String β → Prop
  | done {value : β} (holds : Holds value) : Reads lookup Holds [] (.ok value)
  | met {item : Item} {items : List Item} {result : Except String β} (met : item.Met lookup)
    (reads : Reads lookup Holds items result) : Reads lookup Holds (item :: items) result
  | unmet {item : Item} {items : List Item} {reason : String} (unmet : ¬ item.Met lookup)
    (complains : item.Complains lookup reason) : Reads lookup Holds (item :: items) (.error reason)

variable {Holds : β → Prop} {result : Except String β}

theorem Reads.bind {first : Except String α} {next : α → Except String β}
    (checked : Checked lookup item first)
    (goes : ∀ value, first = .ok value → Reads lookup Holds items (next value)) :
    Reads lookup Holds (item :: items) (first >>= next) := by
  cases checked with
  | met met => exact .met met (goes _ rfl)
  | unmet unmet complains => exact .unmet unmet complains

theorem Reads.ok_iff (reads : Reads lookup Holds items result) :
    (∃ value, result = .ok value) ↔ ∀ item ∈ items, item.Met lookup := by
  induction reads with
  | done holds => simp
  | met met reads ih => simp [ih, met]
  | unmet unmet complains => simp [unmet]

theorem Reads.holds {value : β} (reads : Reads lookup Holds items result)
    (accepted : result = .ok value) : Holds value := by
  induction reads with
  | done holds =>
    obtain rfl := Except.ok.inj accepted
    exact holds
  | met met reads ih => exact ih accepted
  | unmet unmet complains => cases accepted

theorem Reads.error_iff {reason : String} (reads : Reads lookup Holds items result) :
    result = .error reason ↔ ∃ earlier item later, items = earlier ++ item :: later ∧
      (∀ other ∈ earlier, other.Met lookup) ∧ ¬ item.Met lookup ∧
        item.Complains lookup reason := by
  induction reads with
  | done holds => simp
  | @met first items result met reads ih =>
    -- the item at the head is met, so that the split is behind it
    rw [ih]
    constructor
    · rintro ⟨earlier, item, later, rfl, before, unmet, complains⟩
      refine ⟨first :: earlier, item, later, rfl, ?_, unmet, complains⟩
      exact List.forall_mem_cons.2 ⟨met, before⟩
    · rintro ⟨earlier, item, later, order, before, unmet, complains⟩
      cases earlier with
      | nil =>
        obtain rfl := (List.cons.inj order).1
        exact absurd met unmet
      | cons _ earlier =>
        exact ⟨earlier, item, later, (List.cons.inj order).2,
          fun other member => before other (.tail _ member), unmet, complains⟩
  | @unmet first items other unmet complains =>
    constructor
    · intro same
      obtain rfl := Except.error.inj same
      exact ⟨[], first, items, rfl, by simp, unmet, complains⟩
    · rintro ⟨earlier, item, later, order, before, -, complains'⟩
      cases earlier with
      | nil =>
        obtain ⟨rfl, -⟩ := List.cons.inj order
        rw [complains.unique complains']
      | cons _ earlier =>
        obtain ⟨rfl, -⟩ := List.cons.inj order
        exact absurd (before _ (.head _)) unmet

structure Sound (lookup : String → Option String) (config : Config) : Prop where
  environment : config.environment = (lookup "APP_ENV").getD "development"
  known : config.environment ∈ environments
  secret : config.signingSecret ≠ ""
  production : config.environment = "production" →
    lookup "STORAGE_SIGNING_SECRET" = some config.signingSecret

theorem secret_of_ok {environment secret : String} {given : Option String}
    (read : secretOf environment given = .ok secret) :
    secret ≠ "" ∧ (environment = "production" → given = some secret) := by
  rw [secretOf] at read
  cases kept : given.filter (!·.isEmpty) with
  | some supplied =>
    rw [kept] at read
    obtain rfl := Except.ok.inj read
    obtain ⟨there, filled⟩ := Option.filter_eq_some_iff.1 kept
    exact ⟨by simpa using filled, fun _ => there⟩
  | none =>
    rw [kept] at read
    dsimp only at read
    split_ifs at read with strict
    obtain rfl := Except.ok.inj read
    exact ⟨by decide, fun production => absurd production strict⟩

theorem environment_of_ok {environment : String} {given : Option String}
    (read : environmentOf given = .ok environment) :
    environment = given.getD "development" ∧ environment ∈ environments := by
  simp only [environmentOf] at read
  split_ifs at read with known
  obtain rfl := Except.ok.inj read
  exact ⟨rfl, known⟩

theorem reads_read (lookup : String → Option String) :
    Reads lookup (Sound lookup) Item.inOrder (read lookup) := by
  unfold read
  cases given : lookup "DATABASE_URL" with
  | none => exact .unmet (fun met => met given) .databaseUrl
  | some url =>
    refine .met (by simp [Item.Met, given]) ?_
    refine .bind (checked_port lookup) fun port _ => ?_
    refine .bind (checked_environment lookup) fun environment known => ?_
    obtain ⟨given, listed⟩ := environment_of_ok known
    refine .bind (checked_signingSecret given) fun secret supplied => ?_
    obtain ⟨filled, production⟩ := secret_of_ok supplied
    refine .bind (checked_replaceStrategy lookup) fun strategy _ => ?_
    refine .bind (checked_cascade lookup) fun cascade _ => ?_
    refine .bind (checked_maxUploadBytes lookup) fun largest _ => ?_
    exact .done ⟨given, listed, filled, production⟩

end Items

theorem isSegment_of_known {environment : String} (known : environment ∈ environments) :
    Files.isSegment environment = true := by
  simp only [environments, List.mem_cons, List.not_mem_nil, or_false] at known
  rcases known with rfl | rfl | rfl <;> decide

theorem Item.mem_inOrder (item : Item) : item ∈ inOrder := by
  cases item <;> decide

/-- A configuration is accepted exactly if every item is met, and otherwise the first item that is
not met is complained of.  What is accepted has a secret, the supplied one in production, and in its
environment only the owner or the filename can keep a path from being made. -/
theorem read_accepts_wellFormed (lookup : String → Option String) :
    ((∃ config, read lookup = .ok config) ↔ ∀ item : Item, item.Met lookup) ∧
    (∀ reason, read lookup = .error reason ↔
      ∃ earlier item later, Item.inOrder = earlier ++ item :: later ∧
        (∀ other ∈ earlier, other.Met lookup) ∧ ¬ item.Met lookup ∧
          item.Complains lookup reason) ∧
    ∀ config, read lookup = .ok config →
      config.environment = (lookup "APP_ENV").getD "development" ∧
      config.signingSecret ≠ "" ∧
      (config.environment = "production" →
        lookup "STORAGE_SIGNING_SECRET" = some config.signingSecret) ∧
      ∀ owner filename time fault,
        Files.Path.build owner filename config.environment time = .error fault →
          Files.Misfit owner filename fault := by
  have reads := reads_read lookup
  refine ⟨reads.ok_iff.trans ?_, fun reason => reads.error_iff, fun config accepted => ?_⟩
  · exact ⟨fun met item => met item item.mem_inOrder, fun met item _ => met item⟩
  · have sound := reads.holds accepted
    refine ⟨sound.environment, sound.secret, sound.production, ?_⟩
    intro owner filename time fault failed
    exact Files.misfit_of_build (isSegment_of_known sound.known) failed

/-- Variables of a service in production, where a secret is given or not. -/
def inProduction (secret : Option String) : String → Option String
  | "DATABASE_URL" => some "postgres://localhost/depot"
  | "APP_ENV" => some "production"
  | "STORAGE_SIGNING_SECRET" => secret
  | _ => none

theorem read_accepts_wellFormed_inProduction :
    (∃ config, read (inProduction (some "s3cret")) = .ok config ∧
      config.signingSecret = "s3cret" ∧
      ∀ fault, Files.Path.build ⟨"user", "u1", "note"⟩ "" config.environment ⟨0, 0⟩ = .error fault →
        Files.Misfit ⟨"user", "u1", "note"⟩ "" fault) ∧
      read (inProduction (some "")) = .error "STORAGE_SIGNING_SECRET must be set in production" := by
  constructor
  · obtain ⟨accepts, -, sound⟩ := read_accepts_wellFormed (inProduction (some "s3cret"))
    obtain ⟨config, accepted⟩ := accepts.2 fun item => by
      cases item <;> simp [Item.Met, inProduction]
    obtain ⟨environment, -, production, builds⟩ := sound config accepted
    have supplied := Option.some.inj (production environment)
    exact ⟨config, accepted, supplied.symm, builds _ _ _⟩
  · obtain ⟨-, refuses, -⟩ := read_accepts_wellFormed (inProduction (some ""))
    refine (refuses _).2 ⟨[.databaseUrl, .port, .environment], .signingSecret, _, rfl, ?_, ?_,
      .signingSecret⟩
    · simp [Item.Met, inProduction]
    · simp [Item.Met, inProduction]

end Depot.Service.Config
