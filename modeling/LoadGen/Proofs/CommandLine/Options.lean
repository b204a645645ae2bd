import LoadGen.Proofs.CommandLine.Words
import LoadGen.Proofs.Text.Numerals

namespace LoadGen

/-!
# Every configuration is a command line

A configuration is written as one word for each of its settings, `--name=value`, in any order.  Settings
that have their defaults may be left out.  Reading the words gives the configuration back.

* `Setting.written` — the text of the value that a setting has in a configuration;
* `Setting.copy` — a configuration with one of its settings taken from another;
* `CommandLine.assign_written` — making a setting from its text takes it over;
* `CommandLine.Progress.read_word` — so does reading its word, wherever it stands;
* `CommandLine.ofWords_words` — reading the words of a configuration gives it back.
-/

namespace Setting

/-! ### Settings of a configuration -/

/-- The kind of value that a setting has.  Where metrics are served is no part of a configuration. -/
def Value : Setting → Type
  | host | engine | password | db | method | sql | topic | body => String
  | rate | threads | concurrency | complexity => UInt32
  | duration => Duration
  | dataSize => UInt64
  | keepalive => Bool
  | metricsAddress => Unit

/-- The value of a setting in a configuration. -/
def value (config : RunConfig) : (s : Setting) → s.Value
  | host => config.host
  | engine => config.engine
  | rate => config.rate
  | threads => config.threads
  | duration => config.duration
  | concurrency => config.concurrency
  | password => config.options.password
  | db => config.options.db
  | method => config.options.method
  | sql => config.options.sql
  | complexity => config.options.complexity
  | dataSize => config.options.dataSize
  | keepalive => config.options.keepalive
  | topic => config.options.topic
  | body => config.options.body
  | metricsAddress => ()

/-- How the value of a setting is written: numbers in decimal, durations in whole seconds. -/
def written (config : RunConfig) : Setting → String
  | host => config.host
  | engine => config.engine
  | rate => config.rate.toNat.repr
  | threads => config.threads.toNat.repr
  | duration => config.duration.secs.repr
  | concurrency => config.concurrency.toNat.repr
  | password => config.options.password
  | db => config.options.db
  | method => config.options.method
  | sql => config.options.sql
  | complexity => config.options.complexity.toNat.repr
  | dataSize => config.options.dataSize.toNat.repr
  | keepalive => if config.options.keepalive then "true" else "false"
  | topic => config.options.topic
  | body => config.options.body
  | metricsAddress => ""

/-- The word that makes a setting. -/
def word (config : RunConfig) (s : Setting) : String := "--" ++ s.long ++ "=" ++ s.written config

/-- A configuration with a setting of another. -/
def copy (source target : RunConfig) : Setting → RunConfig
  | host => { target with host := source.host }
  | engine => { target with engine := source.engine }
  | rate => { target with rate := source.rate }
  | threads => { target with threads := source.threads }
  | duration => { target with duration := source.duration }
  | concurrency => { target with concurrency := source.concurrency }
  | password => { target with options.password := source.options.password }
  | db => { target with options.db := source.options.db }
  | method => { target with options.method := source.options.method }
  | sql => { target with options.sql := source.options.sql }
  | complexity => { target with options.complexity := source.options.complexity }
  | dataSize => { target with options.dataSize := source.options.dataSize }
  | keepalive => { target with options.keepalive := source.options.keepalive }
  | topic => { target with options.topic := source.options.topic }
  | body => { target with options.body := source.options.body }
  | metricsAddress => target

variable {source target : RunConfig}

theorem value_copy_self (s : Setting) : s.value (s.copy source target) = s.value source := by
  cases s <;> rfl

theorem value_copy_of_ne {s other : Setting} (ne : s ≠ other) :
    s.value (other.copy source target) = s.value target := by
  cases other <;> cases s <;> first | rfl | exact absurd rfl ne

/-- A configuration is made up of its settings. -/
theorem eq_of_value_eq (same : ∀ s : Setting, s.value source = s.value target) : source = target := by
  obtain ⟨engine, host, rate, threads, concurrency, duration, options⟩ := source
  obtain ⟨password, db, method, sql, complexity, dataSize, keepalive, topic, body⟩ := options
  obtain rfl : engine = _ := same .engine
  obtain rfl : host = _ := same .host
  obtain rfl : rate = _ := same .rate
  obtain rfl : threads = _ := same .threads
  obtain rfl : concurrency = _ := same .concurrency
  obtain rfl : duration = _ := same .duration
  obtain rfl : password = _ := same .password
  obtain rfl : db = _ := same .db
  obtain rfl : method = _ := same .method
  obtain rfl : sql = _ := same .sql
  obtain rfl : complexity = _ := same .complexity
  obtain rfl : dataSize = _ := same .dataSize
  obtain rfl : keepalive = _ := same .keepalive
  obtain rfl : topic = _ := same .topic
  obtain rfl : body = _ := same .body
  rfl

/-- After several settings are taken over, each of them has its new value, and all others are as before. -/
theorem value_foldl_copy (s : Setting) (settings : List Setting) (target : RunConfig) :
    s.value (settings.foldl (fun config other => other.copy source config) target) =
      if s ∈ settings then s.value source else s.value target := by
  induction settings generalizing target with
  | nil => simp
  | cons first rest ih =>
    rw [List.foldl_cons, ih]
    by_cases later : s ∈ rest
    · simp [later]
    · by_cases now : s = first
      · subst now
        simp [later, value_copy_self]
      · simp [later, now, value_copy_of_ne now]

end Setting

namespace CommandLine

variable {config : RunConfig} {s : Setting}

/-! ### Values -/

theorem readHalfWord_repr (s : Setting) (n : UInt32) : readHalfWord s n.toNat.repr = .ok n := by
  have small : n.toNat < 4294967296 := n.toNat_lt
  unfold readHalfWord
  rw [Text.readSigned_repr (Nat.lt_trans small (by decide))]
  simp only
  rw [if_pos ⟨Int.natCast_nonneg _, Int.ofNat_lt.mpr small⟩, Int.toNat_natCast, UInt32.ofNat_toNat]

theorem readWord_repr (s : Setting) (n : UInt64) : readWord s n.toNat.repr = .ok n := by
  unfold readWord
  rw [Text.readUnsigned_repr n.toNat_lt]
  simp only
  rw [UInt64.ofNat_toNat]

theorem readChoice_written (s : Setting) (b : Bool) :
    readChoice s (if b then "true" else "false") = .ok b := by
  cases b <;> rfl

/-- Whole seconds are read back. -/
theorem readDuration_repr (s : Setting) {d : Duration} (whole : d.subsec = 0) :
    readDuration s d.secs.repr = .ok d := by
  have text : Duration.ofText d.secs.repr = .ok d := by
    unfold Duration.ofText
    rw [Text.readUnsigned_repr d.secs_lt]
    have nanos := d.secs_mul_add_subsec
    rw [whole, Nat.add_zero] at nanos
    show Except.ok (Duration.ofSecs d.secs) = .ok d
    congr 1
    apply Duration.ext
    show d.secs % wordCount * nanosPerSec = d.nanos
    rw [Nat.mod_eq_of_lt d.secs_lt, nanos]
  unfold readDuration
  rw [text]

/-- Making a setting from its text takes it over. -/
theorem assign_written (line : CommandLine) (whole : config.duration.subsec = 0)
    (own : s ≠ .metricsAddress) :
    line.assign s (s.written config) = .ok { line with config := s.copy config line.config } := by
  cases s with
  | metricsAddress => exact absurd rfl own
  | rate | threads | concurrency | complexity =>
    unfold assign Setting.written
    rw [readHalfWord_repr]
    rfl
  | duration =>
    unfold assign Setting.written
    rw [readDuration_repr _ whole]
    rfl
  | dataSize =>
    unfold assign Setting.written
    rw [readWord_repr]
    rfl
  | keepalive =>
    unfold assign Setting.written
    rw [readChoice_written]
    rfl
  | host | engine | password | db | method | sql | topic | body => rfl

/-! ### Words -/

namespace Progress

/-- The word of a setting makes it. -/
theorem read_word {p : Progress} (idle : p.pending = none) (going : p.trailing = false)
    (new : s ∉ p.given) (whole : config.duration.subsec = 0) (own : s ≠ .metricsAddress) :
    p.read (s.word config) = .ok { p with
      line := { p.line with config := s.copy config p.line.config }, given := s :: p.given } := by
  have settled : p.settle = .ok p := by
    unfold settle
    rw [idle]
  unfold Setting.word
  rw [read_attached p s _ going]
  unfold take
  rw [settled]
  show p.make s (some (String.ofList (s.written config).toList)) = _
  unfold make
  simp only
  rw [if_neg (by simpa using new), String.ofList_toList, assign_written p.line whole own]
  rfl

/-- Words of different settings make all of them. -/
theorem foldlM_read_words {settings : List Setting} {p : Progress} (idle : p.pending = none)
    (going : p.trailing = false) (new : ∀ s ∈ settings, s ∉ p.given) (once : settings.Nodup)
    (whole : config.duration.subsec = 0) (own : .metricsAddress ∉ settings) :
    (settings.map (Setting.word config)).foldlM read p = .ok { p with
      line := { p.line with
        config := settings.foldl (fun target s => s.copy config target) p.line.config }
      given := settings.reverse ++ p.given } := by
  induction settings generalizing p with
  | nil => rfl
  | cons s settings ih =>
    obtain ⟨other, once⟩ := List.nodup_cons.mp once
    have own' : s ≠ .metricsAddress := fun same => own (same ▸ List.mem_cons_self)
    have later : ∀ t ∈ settings, t ∉ s :: p.given := by
      intro t mem
      have ne : t ≠ s := fun same => other (same ▸ mem)
      simpa [ne] using new t (List.mem_cons_of_mem _ mem)
    rw [List.map_cons, List.foldlM_cons,
      read_word idle going (new s List.mem_cons_self) whole own']
    refine (ih (p := ⟨_, s :: p.given, p.pending, p.trailing⟩) idle going later once
      fun mem => own (List.mem_cons_of_mem _ mem)).trans ?_
    simp

end Progress

/-- **Every configuration is a command line.**  A configuration that lasts whole seconds is written as one
    word `--name=value` for each of its settings, in any order.  Settings that have their defaults may be
    left out.  Reading the words gives the configuration back. -/
theorem ofWords_words (config : RunConfig) (settings : List Setting)
    (whole : config.duration.subsec = 0) (once : settings.Nodup) (own : .metricsAddress ∉ settings)
    (rest : ∀ s : Setting, s ∉ settings → s.value config = s.value { engine := "", host := "" }) :
    ofWords (settings.map fun s => "--" ++ s.long ++ "=" ++ s.written config) =
      .ok { config, metricsAddress := none } := by
  have read : (settings.map (Setting.word config)).foldlM Progress.read {} = _ :=
    Progress.foldlM_read_words rfl rfl (fun _ _ => List.not_mem_nil) once whole own
  have made : settings.foldl (fun target s => s.copy config target) { engine := "", host := "" } =
      config := by
    apply Setting.eq_of_value_eq
    intro s
    rw [Setting.value_foldl_copy]
    by_cases mem : s ∈ settings
    · rw [if_pos mem]
    · rw [if_neg mem]
      exact (rest s mem).symm
  show ((settings.map (Setting.word config)).foldlM Progress.read {} >>= _) = _
  rw [read]
  show Except.ok _ = Except.ok _
  rw [made]

/-- Texts that look like names, an empty one and one with signs of equality. -/
def oddTexts : RunConfig where
  engine := "--engine"
  host := "-"
  rate := 4294967295
  duration := .ofSecs 90
  options := { method := "=GET=", keepalive := false }

theorem ofWords_words_oddTexts :
    ofWords ["--method==GET=", "--duration=90", "--host=-", "--sql=", "--engine=--engine",
      "--keepalive=false", "--rate=4294967295"] = .ok { config := oddTexts, metricsAddress := none } :=
  ofWords_words oddTexts [.method, .duration, .host, .sql, .engine, .keepalive, .rate] (by decide)
    (by decide) (by decide) (by intro s out; cases s <;> first | rfl | exact absurd out (by decide))

end CommandLine

end LoadGen
