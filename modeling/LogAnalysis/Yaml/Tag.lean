import LogAnalysis.Pattern.Basic

/-!
Tags of YAML nodes, which say what kind of value a node stands for, and the tags that plain scalars have by their texts.
-/

namespace LogAnalysis.Yaml

inductive Tag
  | null
  | bool
  | int
  | float
  | timestamp
  | text
  | binary
  | sequence
  | mapping
  | set
  | orderedMap
  | pairs
  | merge
  | value
  | other (name : String)
deriving Repr, DecidableEq, Inhabited

namespace Tag

def commonStart : String := "tag:yaml.org,2002:"

def common : List (String × Tag) :=
  [("null", null), ("bool", bool), ("int", int), ("float", float), ("timestamp", timestamp),
    ("str", text), ("binary", binary), ("seq", sequence), ("map", mapping), ("set", set),
    ("omap", orderedMap), ("pairs", pairs), ("merge", merge), ("value", value)]

def ofName (name : String) : Tag :=
  match common.find? fun (short, _) => name = commonStart ++ short with
  | some (_, tag) => tag
  | none => other name

/-! ## Tags by text -/

def texts : List (Tag × List String) :=
  [(bool, ["yes|Yes|YES|no|No|NO", "true|True|TRUE|false|False|FALSE", "on|On|ON|off|Off|OFF"]),
    (float,
      ["[-+]?[0-9][0-9_]*\\.[0-9_]*(?:[eE][-+][0-9]+)?",
        "\\.[0-9][0-9_]*(?:[eE][-+][0-9]+)?",
        "[-+]?[0-9][0-9_]*(?::[0-5]?[0-9])+\\.[0-9_]*",
        "[-+]?\\.(?:inf|Inf|INF)",
        "\\.(?:nan|NaN|NAN)"]),
    (int,
      ["[-+]?0b[0-1_]+", "[-+]?0[0-7_]+", "[-+]?(?:0|[1-9][0-9_]*)", "[-+]?0x[0-9a-fA-F_]+",
        "[-+]?[1-9][0-9_]*(?::[0-5]?[0-9])+"]),
    (merge, ["<<"]),
    (null, ["~|null|Null|NULL|"]),
    (timestamp,
      ["[0-9][0-9][0-9][0-9]-[0-9][0-9]-[0-9][0-9]",
        "[0-9][0-9][0-9][0-9]-[0-9][0-9]?-[0-9][0-9]?(?:[Tt]|[ \\t]+)[0-9][0-9]?:[0-9][0-9]:[0-9][0-9]" ++
          "(?:\\.[0-9]*)?(?:[ \\t]*(?:Z|[-+][0-9][0-9]?(?::[0-9][0-9])?))?"]),
    (value, ["="])]

def patterns : List (Tag × Pattern.Parsed) :=
  texts.filterMap fun (tag, alternatives) =>
    let pattern := "\\A(?:" ++ Text.joined "|" alternatives ++ ")$"
    (Pattern.compile pattern {}).toOption.map (tag, ·)

def ofText (s : String) : Tag :=
  match patterns.find? fun (_, pattern) => Pattern.search pattern s with
  | some (tag, _) => tag
  | none => text

end Tag

end LogAnalysis.Yaml
