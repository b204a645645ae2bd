namespace LoadGen

/-!
# Settings of the command line

The settings that a command line can make, with their names.  Each takes one value.

* `Setting.long`, `Setting.short?` — the names;
* `Setting.shown` — how a setting is called in messages;
* `Setting.all` — all settings, in the order of the help text.
-/

/-- A setting that takes a value. -/
inductive Setting where
  | host | engine | rate | threads | duration | concurrency | password | db | method | sql
  | complexity | dataSize | keepalive | topic | body | metricsAddress
  deriving DecidableEq, Repr

namespace Setting

/-- All settings, in the order of the help text. -/
def all : List Setting :=
  [host, engine, rate, threads, duration, concurrency, password, db, method, sql, complexity,
    dataSize, keepalive, topic, body, metricsAddress]

/-- The name behind two dashes. -/
def long : Setting → String
  | host => "host"
  | engine => "engine"
  | rate => "rate"
  | threads => "threads"
  | duration => "duration"
  | concurrency => "concurrency"
  | password => "password"
  | db => "db"
  | method => "method"
  | sql => "sql"
  | complexity => "complexity"
  | dataSize => "datasize"
  | keepalive => "keepalive"
  | topic => "topic"
  | body => "body"
  | metricsAddress => "metrics-addr"

/-- The letter behind one dash. -/
def short? : Setting → Option Char
  | host => some 'H'
  | engine => some 'e'
  | rate => some 'r'
  | threads => some 't'
  | duration => some 'd'
  | concurrency => some 'c'
  | password => some 'p'
  | db | method | sql | complexity | dataSize | keepalive | topic | body | metricsAddress => none

/-- The name of the value. -/
def placeholder : Setting → String
  | host => "HOST"
  | engine => "ENGINE"
  | rate => "RATE"
  | threads => "THREADS"
  | duration => "DURATION"
  | concurrency => "CONCURRENCY"
  | password => "PASSWORD"
  | db => "DB"
  | method => "METHOD"
  | sql => "SQL"
  | complexity => "COMPLEXITY"
  | dataSize => "DATA_SIZE"
  | keepalive => "KEEPALIVE"
  | topic => "TOPIC"
  | body => "BODY"
  | metricsAddress => "METRICS_ADDR"

/-- How a setting is called in messages. -/
def shown (s : Setting) : String := s!"--{s.long} <{s.placeholder}>"

/-- The setting with a long name. -/
def ofLong? (name : String) : Option Setting := all.find? fun s => s.long == name

/-- The setting with a letter. -/
def ofShort? (letter : Char) : Option Setting := all.find? fun s => s.short? == some letter

end Setting

end LoadGen
