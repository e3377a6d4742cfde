/-!
The options of the command line: their names, and what each of them takes.
-/

namespace LogAnalysis.CommandLine

inductive Operand
  | nothing
  | text
  | number
  | oneOf (choices : List String)
deriving Repr, DecidableEq

inductive Switch
  | help
  | format
  | query
  | saved
  | extract
  | mergeStrategy
  | config
  | sort
  | order
  | page
  | perPage
  | lines
  | output
  | color
  | stats
  | summary
  | verbose
deriving Repr, DecidableEq, Inhabited

namespace Switch

def names : List (String × Switch) :=
  [("-h", help), ("--help", help), ("--format", format), ("--query", query), ("-q", query),
    ("--saved", saved), ("--extract", extract), ("-e", extract), ("--merge-strategy", mergeStrategy),
    ("--config", config), ("--sort", sort), ("--order", order), ("--page", page),
    ("--per-page", perPage), ("--lines", lines), ("--output", output), ("--color", color),
    ("--stats", stats), ("--summary", summary), ("--verbose", verbose), ("-v", verbose)]

def operand : Switch → Operand
  | help | color | stats | summary | verbose => .nothing
  | query | saved | extract | config | sort => .text
  | page | perPage | lines => .number
  | format => .oneOf ["auto", "log", "csv", "json"]
  | mergeStrategy => .oneOf ["last-wins", "first-wins", "merge"]
  | order => .oneOf ["asc", "desc"]
  | output => .oneOf ["text", "json", "ndjson", "csv"]

end Switch

end LogAnalysis.CommandLine
