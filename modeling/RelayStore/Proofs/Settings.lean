import RelayStore.Proofs.Json.Number
import RelayStore.Proofs.Text.FirstWords
import RelayStore.Settings

/-!
Environments that settings can be read from. Main statement: they are those that meet every one of a
list of demands. Otherwise the error is that of the first demand that is not met, and settings that
were read can be run with.
-/
namespace RelayStore.Settings

variable {env : Environment} {raw : String} {n m bound : Nat} {text : List Char}

/-! Numbers. -/

/-- An unsigned decimal, with or without a plus sign. -/
inductive Numeral : List Char → Nat → Prop where
  | plain {digits : List Char} (written : Json.Digits digits) :
      Numeral digits (Nat.ofDigitChars 10 digits 0)
  | signed {digits : List Char} (written : Json.Digits digits) :
      Numeral ('+' :: digits) (Nat.ofDigitChars 10 digits 0)

/-- A text that is a decimal up to blanks at its ends. -/
def Denotes (raw : String) (n : Nat) : Prop :=
  ∃ part, Text.IsTrimmed part raw ∧ Numeral part.toList n

/-- What follows a plus sign, if there is one. -/
def unsigned : List Char → List Char
  | '+' :: rest => rest
  | text => text

theorem unsigned_plain (start : ∀ rest, text ≠ '+' :: rest) : unsigned text = text := by
  unfold unsigned
  split
  next rest => exact absurd rfl (start rest)
  next => rfl

theorem numeral_iff :
    Numeral text n ↔ Json.Digits (unsigned text) ∧ n = Nat.ofDigitChars 10 (unsigned text) 0 := by
  constructor
  · rintro (⟨some, all⟩ | written)
    · have start : ∀ rest, text ≠ '+' :: rest := by
        rintro rest rfl
        exact absurd (all '+' List.mem_cons_self) (by decide)
      rw [unsigned_plain start]
      exact ⟨⟨some, all⟩, rfl⟩
    · exact ⟨written, rfl⟩
  · rintro ⟨written, rfl⟩
    unfold unsigned at written ⊢
    split at written
    next rest => exact .signed written
    next => exact .plain written

theorem readNat?_eq_some : readNat? bound text = some n ↔ Numeral text n ∧ n < bound := by
  have value : readNat? bound text =
      if unsigned text = [] ∨ (unsigned text).any (fun c => !c.isDigit) then none
      else if Nat.ofDigitChars 10 (unsigned text) 0 < bound then
        some (Nat.ofDigitChars 10 (unsigned text) 0)
      else none := by
    unfold readNat?
    split
    next rest => rfl
    next start =>
      rw [unsigned_plain start]
      rfl
  have written : Json.Digits (unsigned text) ↔
      ¬ (unsigned text = [] ∨ (unsigned text).any (fun c => !c.isDigit)) := by
    simp [Json.Digits]
  rw [value, numeral_iff, written]
  split_ifs with bad small
  · simp only [bad, not_true_eq_false, false_and]
  · simp only [bad, not_false_eq_true, true_and, Option.some.injEq]
    constructor
    · rintro rfl
      exact ⟨rfl, small⟩
    · rintro ⟨rfl, -⟩
      rfl
  · simp only [false_iff, not_and]
    rintro ⟨-, rfl⟩
    exact small

theorem denotes_iff : Denotes raw n ↔ Numeral (Text.trimList raw.toList) n := by
  have whole : (Text.trim raw).toList = Text.trimList raw.toList := String.toList_ofList
  constructor
  · rintro ⟨part, trimmed, numeral⟩
    rwa [trimmed.eq_trim, whole] at numeral
  · intro numeral
    exact ⟨Text.trim raw, Text.isTrimmed_trim raw, whole ▸ numeral⟩

theorem Denotes.unique (first : Denotes raw n) (second : Denotes raw m) : n = m := by
  rw [denotes_iff, numeral_iff] at first second
  exact first.2.trans second.2.symm

/-! Variables that hold a number. -/

structure Numeric where
  key : String
  bound : Nat
  default : Nat

namespace Numeric

def batchSize : Numeric := ⟨"STORE_BATCH_SIZE", UInt64.size, 1000⟩
def flushMillis : Numeric := ⟨"STORE_FLUSH_INTERVAL_MS", UInt64.size, 1000⟩
def queueCapacity : Numeric := ⟨"STORE_QUEUE_CAPACITY", UInt64.size, 4096⟩
def querySecs : Numeric := ⟨"STORE_QUERY_TIMEOUT_SECS", UInt64.size, 30⟩
def refreshSecs : Numeric := ⟨"STORE_HOT_REFRESH_SECS", UInt64.size, 300⟩
def maxPosts : Numeric := ⟨"STORE_HOT_MAX_POSTS", UInt64.size, 1000⟩
def statsSecs : Numeric := ⟨"STORE_STATS_INTERVAL_SECS", UInt64.size, 30⟩
def metricsPort : Numeric := ⟨"STORE_METRICS_PORT", UInt16.size, 9090⟩

/-- All of them in the order in which they are read. -/
def all : List Numeric :=
  [batchSize, flushMillis, queueCapacity, querySecs, refreshSecs, maxPosts, statsSecs, metricsPort]

/-- The number of a variable: the one it is set to, or the default of one that is not set. -/
def Gives (v : Numeric) (env : Environment) (n : Nat) : Prop :=
  match env.text? v.key with
  | some raw => Denotes raw n ∧ n < v.bound
  | none => n = v.default

variable {v : Numeric}

theorem Gives.unique (first : v.Gives env n) (second : v.Gives env m) : n = m := by
  unfold Gives at first second
  split at first
  next set =>
    rw [set] at second
    exact first.1.unique second.1
  next unset =>
    rw [unset] at second
    exact first.trans second.symm

end Numeric

/-! Demands on an environment. -/

inductive Demand where
  /-- A variable that is set holds a number within its bound. -/
  | readable (v : Numeric)
  /-- A variable is not set to the empty text. -/
  | filled (key : String)
  /-- A number that is called by a name is not zero. -/
  | positive (v : Numeric) (name : String)

namespace Demand

def Met (env : Environment) : Demand → Prop
  | readable v => ∀ raw, env.text? v.key = some raw → ∃ n < v.bound, Denotes raw n
  | filled key => env.text? key ≠ some ""
  | positive v _ => ¬ v.Gives env 0

/-- What is said of a demand that is not met. A value is quoted with the blanks around it. -/
def reason (env : Environment) : Demand → String
  | readable v => v.key ++ ": invalid value " ++ Text.quoted ((env.text? v.key).getD "")
  | filled key => key ++ " must not be empty"
  | positive _ name => name ++ " must be positive"

end Demand

namespace Numeric

variable {v : Numeric}

theorem met_iff : (Demand.readable v).Met env ↔ ∃ n, v.Gives env n := by
  unfold Demand.Met Gives
  cases set : env.text? v.key with
  | none => simp [set]
  | some raw => simp [set, and_comm]

theorem number_eq_ok : number env v.key v.bound v.default = .ok n ↔ v.Gives env n := by
  unfold number Gives
  cases env.text? v.key with
  | none => simp [eq_comm]
  | some raw =>
    dsimp only
    rw [denotes_iff, ← readNat?_eq_some]
    cases readNat? v.bound (Text.trimList raw.toList) <;> simp

theorem number_of_unmet (unmet : ¬ (Demand.readable v).Met env) :
    number env v.key v.bound v.default = .error (.config ((Demand.readable v).reason env)) := by
  cases read : number env v.key v.bound v.default with
  | ok n => exact absurd (met_iff.mpr ⟨n, number_eq_ok.mp read⟩) unmet
  | error e =>
    unfold number at read
    cases set : env.text? v.key with
    | none =>
      rw [set] at read
      contradiction
    | some raw =>
      rw [set] at read
      dsimp only at read
      split at read
      next => contradiction
      next =>
        obtain rfl := Except.error.inj read
        rw [Demand.reason, set, Option.getD_some]

end Numeric

/-- The demands on what was read. -/
def checks : List Demand :=
  [.filled "CLICKHOUSE_URL", .filled "CLICKHOUSE_DATABASE", .positive .batchSize "batch size",
    .positive .flushMillis "flush interval", .positive .queueCapacity "queue capacity",
    .positive .refreshSecs "hot refresh interval"]

/-- The demands in the order in which they are looked at. -/
def demands : List Demand := Numeric.all.map .readable ++ checks

/-- An error is that of the first demand that is not met. -/
inductive FirstUnmet (env : Environment) : List Demand → Error → Prop where
  | here {d : Demand} {ds : List Demand} (unmet : ¬ d.Met env) :
      FirstUnmet env (d :: ds) (.config (d.reason env))
  | later {d : Demand} {ds : List Demand} {e : Error} (met : d.Met env)
      (rest : FirstUnmet env ds e) : FirstUnmet env (d :: ds) e

section

variable {ds : List Demand} {e e' : Error}

theorem FirstUnmet.not_met (first : FirstUnmet env ds e) : ¬ ∀ d ∈ ds, d.Met env := by
  intro all
  induction first with
  | here unmet => exact unmet (all _ List.mem_cons_self)
  | later _ _ ih => exact ih fun d mem => all d (List.mem_cons_of_mem _ mem)

/-- Only one demand can be the first. -/
theorem FirstUnmet.unique (first : FirstUnmet env ds e) (second : FirstUnmet env ds e') :
    e = e' := by
  induction first with
  | here unmet =>
    cases second with
    | here => rfl
    | later met => exact absurd met unmet
  | later met rest ih =>
    cases second with
    | here unmet => exact absurd met unmet
    | later _ rest => exact ih rest

end

/-- A result that was reached under some demands: they are all met, or it is the error of the first
one that is not. -/
def Obeys {α : Type} (env : Environment) (ds : List Demand) (P : α → Prop) : Except Error α → Prop
  | .ok a => (∀ d ∈ ds, d.Met env) ∧ P a
  | .error e => FirstUnmet env ds e

section

variable {α : Type} {P : α → Prop} {ds : List Demand} {d : Demand} {r : Except Error α}

theorem Obeys.met (met : d.Met env) (later : Obeys env ds P r) : Obeys env (d :: ds) P r := by
  cases r with
  | ok a => exact ⟨List.forall_mem_cons.mpr ⟨met, later.1⟩, later.2⟩
  | error e => exact .later met later

theorem Obeys.unmet (unmet : ¬ d.Met env) :
    Obeys env (d :: ds) P (.error (.config (d.reason env))) :=
  FirstUnmet.here unmet

/-- Reading a variable is a demand, and what comes later may use the number that it gives. -/
theorem Obeys.number (v : Numeric) {f : Nat → Except Error α}
    (later : ∀ n, v.Gives env n → Obeys env ds P (f n)) :
    Obeys env (.readable v :: ds) P (number env v.key v.bound v.default >>= f) := by
  by_cases met : (Demand.readable v).Met env
  · obtain ⟨n, gives⟩ := Numeric.met_iff.mp met
    rw [Numeric.number_eq_ok.mpr gives]
    exact .met met (later n gives)
  · rw [Numeric.number_of_unmet met]
    exact .unmet met

/-- A result that may be refused for a reason. -/
def unlessRefused (a : α) : Option String → Except Error α
  | some reason => .error (.config reason)
  | none => .ok a

theorem Obeys.check {p : Prop} [Decidable p] {reason : String} {later : Option String} {a : α}
    (same : p ↔ ¬ d.Met env) (text : reason = d.reason env)
    (rest : Obeys env ds P (unlessRefused a later)) :
    Obeys env (d :: ds) P (unlessRefused a (if p then some reason else later)) := by
  by_cases h : p
  · rw [if_pos h, text]
    exact .unmet (same.mp h)
  · rw [if_neg h]
    exact .met (not_not.mp fun unmet => h (same.mpr unmet)) rest

end

/-! The settings as a whole. -/

/-- What the environment says of each setting. -/
structure Given (env : Environment) (s : Settings) : Prop where
  databaseUrl : s.databaseUrl = (env.text? "CLICKHOUSE_URL").getD "http://localhost:8123"
  database : s.database = (env.text? "CLICKHOUSE_DATABASE").getD "nostr"
  batchSize : Numeric.batchSize.Gives env s.batchSize
  flushInterval : ∃ n, Numeric.flushMillis.Gives env n ∧ s.flushInterval = .ofMillis n
  queueCapacity : Numeric.queueCapacity.Gives env s.queueCapacity
  queryTimeout : ∃ n, Numeric.querySecs.Gives env n ∧
    s.queryTimeout = if n = 0 then none else some (.ofSecs n)
  hotRefreshInterval : ∃ n, Numeric.refreshSecs.Gives env n ∧ s.hotRefreshInterval = .ofSecs n
  hotMaxPosts : Numeric.maxPosts.Gives env s.hotMaxPosts
  statsInterval : ∃ n, Numeric.statsSecs.Gives env n ∧
    s.statsInterval = if n = 0 then none else some (.ofSecs n)
  bindAddress : s.bindAddress = (env.text? "STORE_BIND_ADDR").getD "0.0.0.0:8080"
  metricsPort : Numeric.metricsPort.Gives env s.metricsPort

/-- Settings that storage can be run with. -/
structure Runnable (s : StorageSettings) : Prop where
  batchSize : 0 < s.ingest.batchSize
  queueCapacity : 0 < s.ingest.queueCapacity
  flushInterval : 0 < s.ingest.flushInterval.nanos
  refreshInterval : 0 < s.hot.refreshInterval.nanos
  queryTimeout : ∀ limit ∈ s.queryTimeout, 0 < limit.nanos
  writeTimeout : s.ingest.writeTimeout = s.queryTimeout.getD ({} : IngestSettings).writeTimeout
  writeTimeout_pos : 0 < s.ingest.writeTimeout.nanos

theorem nanos_ofMillis_eq_zero : (Decimal.Span.ofMillis n).nanos = 0 ↔ n = 0 := by
  show n * 1000000 = 0 ↔ n = 0
  omega

theorem nanos_ofSecs_eq_zero : (Decimal.Span.ofSecs n).nanos = 0 ↔ n = 0 := by
  show n * 1000000000 = 0 ↔ n = 0
  omega

theorem Numeric.Gives.eq_zero_iff {v : Numeric} {name : String} (gives : v.Gives env n) :
    n = 0 ↔ ¬ (Demand.positive v name).Met env := by
  rw [Demand.Met, not_not]
  constructor
  · rintro rfl
    exact gives
  · exact gives.unique

theorem getD_eq_empty_iff {key default : String} (some : default ≠ "") :
    (env.text? key).getD default = "" ↔ ¬ (Demand.filled key).Met env := by
  rw [Demand.Met, not_not]
  cases env.text? key <;> simp [some]

variable {s : Settings}

theorem Given.obeys (given : Given env s) :
    Obeys env checks (Given env) (unlessRefused s s.fault?) := by
  obtain ⟨flush, flushGiven, flushSame⟩ := given.flushInterval
  obtain ⟨refresh, refreshGiven, refreshSame⟩ := given.hotRefreshInterval
  unfold fault?
  refine .check ?_ rfl (.check ?_ rfl (.check given.batchSize.eq_zero_iff rfl (.check ?_ rfl
    (.check given.queueCapacity.eq_zero_iff rfl (.check ?_ rfl ⟨List.forall_mem_nil _, given⟩)))))
  · rw [given.databaseUrl]
    exact getD_eq_empty_iff (by decide)
  · rw [given.database]
    exact getD_eq_empty_iff (by decide)
  · rw [flushSame, nanos_ofMillis_eq_zero]
    exact flushGiven.eq_zero_iff
  · rw [refreshSame, nanos_ofSecs_eq_zero]
    exact refreshGiven.eq_zero_iff

theorem obeys_ofEnvironment (env : Environment) :
    Obeys env demands (Given env) (ofEnvironment env) := by
  unfold ofEnvironment
  -- The first eight demands are on the texts of the numbers, the others on the settings made of
  -- them.
  refine .number .batchSize fun batch batchGiven => ?_
  refine .number .flushMillis fun flush flushGiven => ?_
  refine .number .queueCapacity fun queue queueGiven => ?_
  refine .number .querySecs fun query queryGiven => ?_
  refine .number .refreshSecs fun refresh refreshGiven => ?_
  refine .number .maxPosts fun posts postsGiven => ?_
  refine .number .statsSecs fun stats statsGiven => ?_
  refine .number .metricsPort fun port portGiven => ?_
  exact Given.obeys {
    databaseUrl := rfl
    database := rfl
    batchSize := batchGiven
    flushInterval := ⟨flush, flushGiven, rfl⟩
    queueCapacity := queueGiven
    queryTimeout := ⟨query, queryGiven, rfl⟩
    hotRefreshInterval := ⟨refresh, refreshGiven, rfl⟩
    hotMaxPosts := postsGiven
    statsInterval := ⟨stats, statsGiven, rfl⟩
    bindAddress := rfl
    metricsPort := portGiven }

theorem Given.runnable_storage (given : Given env s) (met : ∀ d ∈ demands, d.Met env) :
    Runnable s.storage := by
  have positive {v : Numeric} (name : String) (mem : .positive v name ∈ demands) {n : Nat}
      (gives : v.Gives env n) : n ≠ 0 :=
    fun zero => gives.eq_zero_iff.mp zero (met _ mem)
  obtain ⟨flush, flushGiven, flushSame⟩ := given.flushInterval
  obtain ⟨refresh, refreshGiven, refreshSame⟩ := given.hotRefreshInterval
  obtain ⟨query, -, querySame⟩ := given.queryTimeout
  have limited : ∀ limit ∈ s.queryTimeout, 0 < limit.nanos := by
    intro limit set
    rw [querySame] at set
    split_ifs at set with off
    · contradiction
    · cases set
      exact Nat.pos_of_ne_zero (mt nanos_ofSecs_eq_zero.mp off)
  have filled := positive "batch size" (by simp [demands, checks]) given.batchSize
  have queued := positive "queue capacity" (by simp [demands, checks]) given.queueCapacity
  have flushed := positive "flush interval" (by simp [demands, checks]) flushGiven
  have refreshed := positive "hot refresh interval" (by simp [demands, checks]) refreshGiven
  exact {
    batchSize := Nat.pos_of_ne_zero filled
    queueCapacity := Nat.pos_of_ne_zero queued
    flushInterval := by
      show 0 < s.flushInterval.nanos
      rw [flushSame]
      exact Nat.pos_of_ne_zero (mt nanos_ofMillis_eq_zero.mp flushed)
    refreshInterval := by
      show 0 < s.hotRefreshInterval.nanos
      rw [refreshSame]
      exact Nat.pos_of_ne_zero (mt nanos_ofSecs_eq_zero.mp refreshed)
    queryTimeout := limited
    writeTimeout := rfl
    writeTimeout_pos := by
      show 0 < (s.queryTimeout.getD (.ofSecs 30)).nanos
      cases set : s.queryTimeout with
      | none => decide
      | some limit => exact limited limit set }

/-- Settings are read from exactly the environments that meet all demands. From any other the first
demand that is not met gives the error: first of all a number that cannot be read, then what is
empty or zero. What was read is what the variables say, and storage can be run with it. -/
theorem loads_or_first_unmet (env : Environment) :
    ((∃ s, ofEnvironment env = .ok s) ↔ ∀ d ∈ demands, d.Met env) ∧
      (∀ e, ofEnvironment env = .error e ↔ FirstUnmet env demands e) ∧
      ∀ s, ofEnvironment env = .ok s → Given env s ∧ Runnable s.storage := by
  have obeys := obeys_ofEnvironment env
  cases read : ofEnvironment env with
  | ok s =>
    rw [read] at obeys
    obtain ⟨met, given⟩ := obeys
    refine ⟨⟨fun _ => met, fun _ => ⟨s, rfl⟩⟩, fun e => ⟨nofun, ?_⟩, ?_⟩
    · intro first
      exact absurd met first.not_met
    · rintro _ ⟨⟩
      exact ⟨given, given.runnable_storage met⟩
  | error e =>
    rw [read] at obeys
    have first : FirstUnmet env demands e := obeys
    refine ⟨⟨nofun, fun met => absurd met first.not_met⟩, fun e' => ?_, nofun⟩
    constructor
    · rintro ⟨⟩
      exact first
    · intro second
      rw [first.unique second]

/-- A number that cannot be read comes before a zero, and is shown with its blanks. -/
example : ofEnvironment [("STORE_BATCH_SIZE", [48]),
      ("STORE_METRICS_PORT", [32, 54, 53, 53, 51, 54])] =
    .error (.config "STORE_METRICS_PORT: invalid value \" 65536\"") := rfl

/-- A number with blanks and a sign, a deadline that is switched off, and an address that is no
text. -/
def looseEnvironment : Environment :=
  [("STORE_BATCH_SIZE", [32, 43, 48, 51, 10]), ("STORE_QUERY_TIMEOUT_SECS", [48]),
    ("CLICKHOUSE_URL", [255])]

theorem loads_looseEnvironment :
    ofEnvironment looseEnvironment = .ok { batchSize := 3, queryTimeout := none } ∧
      Runnable (storage { batchSize := 3, queryTimeout := none }) := by
  have read : ofEnvironment looseEnvironment = .ok { batchSize := 3, queryTimeout := none } :=
    rfl
  exact ⟨read, ((loads_or_first_unmet looseEnvironment).2.2 _ read).2⟩

end RelayStore.Settings
