/-!
What the program says about itself: the form of its command line, and what each option is for.
-/

namespace LogAnalysis.CommandLine

def usageLines : List String := [
  "usage: logsieve [-h] [--format \x7bauto,log,csv,json\x7d] [--query QUERY]",
  "                [--saved SAVED] [--extract PATTERN]",
  "                [--merge-strategy \x7blast-wins,first-wins,merge\x7d]",
  "                [--config CONFIG] [--sort SORT] [--order \x7basc,desc\x7d]",
  "                [--page PAGE] [--per-page PER_PAGE] [--lines LINES]",
  "                [--output \x7btext,json,ndjson,csv\x7d] [--color]",
  "                [--stats | --summary] [--verbose]",
  "                files [files ...]"]

def explanationLines : List String := [
  "",
  "Parse, extract, query and summarize log files.",
  "",
  "positional arguments:",
  "  files                 Log file path(s) or glob pattern(s)",
  "",
  "options:",
  "  -h, --help            show this help message and exit",
  "  --format \x7bauto,log,csv,json\x7d",
  "                        Input format (default: by file extension)",
  "  --query QUERY, -q QUERY",
  "                        Query, e.g. 'level:ERROR AND user:admin*'",
  "  --saved SAVED         Run a query saved under this name in the config file",
  "  --extract PATTERN, -e PATTERN",
  "                        Named-capture pattern to extract fields, e.g.",
  "                        'user=(?<user>\\w+)' (repeatable)",
  "  --merge-strategy \x7blast-wins,first-wins,merge\x7d",
  "                        How captures of an already-present field combine",
  "                        (default: last-wins)",
  "  --config CONFIG       YAML config file with extractors and saved queries",
  "  --sort SORT           Sort field: id, ts, level, message or field:<name>",
  "                        (default: id)",
  "  --order \x7basc,desc\x7d    Sort order (default: desc)",
  "  --page PAGE           Show only this page of results",
  "  --per-page PER_PAGE   Rows per page (default: 50)",
  "  --lines LINES         Limit output to the first N entries",
  "  --output \x7btext,json,ndjson,csv\x7d",
  "                        Output format: raw text, JSON array, one JSON object",
  "                        per line, or CSV (default: text)",
  "  --color               Colorize output by log level (ANSI)",
  "  --stats               Show level counts and a per-minute histogram instead",
  "                        of entries",
  "  --summary             Show per-field summary statistics instead of entries",
  "  --verbose, -v         Enable debug logging"]

def writeLines (lines : List String) : String := String.join (lines.map (· ++ "\n"))

def usage : String := writeLines usageLines

def helpText : String := writeLines (usageLines ++ explanationLines)

end LogAnalysis.CommandLine
