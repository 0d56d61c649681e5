import TimeRollup.Text.Blank

/-!
# A sample configuration

The file that someone starts from who writes a configuration: all settings at their standard values, and
one aggregate.
-/

namespace TimeRollup

def sampleConfigLines : List String :=
  ["# Cascade Configuration",
   "#",
   "# Environment variables override these settings:",
   "# - CASCADE_WITH_DATA",
   "# - CASCADE_STRICT",
   "# - CASCADE_LOG_LEVEL",
   "# - CASCADE_LOG_FORMAT",
   "",
   "[compiler]",
   "# Granularities for aggregates that do not list their own, finest first",
   "granularities = [\"minute\", \"hour\", \"day\", \"month\"]",
   "",
   "# Populate views when they are created (WITH DATA)",
   "with_data = false",
   "",
   "# Fail when an expression matches no rollup rule instead of warning",
   "strict = false",
   "",
   "# Disable real-time aggregation on created views",
   "materialized_only = false",
   "",
   "# Extra rollup rules. \x7balias\x7d is the finer view's column, \x7b0\x7d, \x7b1\x7d, ...",
   "# are the arguments of the original call.",
   "# [[compiler.rules]]",
   "# function = \"hll\"",
   "# template = \"hll_union_agg(\x7balias\x7d)\"",
   "",
   "[logging]",
   "# Log level: trace, debug, info, warn, error",
   "level = \"info\"",
   "",
   "# Log format: pretty (for development) or json (for production)",
   "format = \"pretty\"",
   "",
   "[[aggregate]]",
   "name = \"downloads\"",
   "relation = \"downloads\"",
   "time_column = \"ts\"",
   "select = [\"gem_name\", \"count(*) as total\"]",
   "group_by = [\"gem_name\"]",
   "# filter = \"version NOT LIKE '%.pre%'\"",
   "",
   "[aggregate.refresh_policy.minute]",
   "start_offset = \"10 minutes\"",
   "end_offset = \"1 minute\"",
   "schedule_interval = \"1 minute\"",
   "",
   "[aggregate.refresh_policy.hour]",
   "start_offset = \"4 hours\"",
   "end_offset = \"1 hour\"",
   "schedule_interval = \"1 hour\"",
   "",
   "[aggregate.refresh_policy.day]",
   "start_offset = \"3 days\"",
   "end_offset = \"1 day\"",
   "schedule_interval = \"1 day\""]

def sampleConfig : String :=
  Text.unlines sampleConfigLines

end TimeRollup
