/-
# Column types of the database

The types that the database itself defines, by their numbers.  A type of a
list of values has the name of the type of a value behind an underscore.
-/

namespace SemanticLayer.ColumnType

/-- The types of values, with the number of the type of their lists; zero when it has none. -/
def valueTypes : List (Nat × String × Nat) :=
  [(16, "bool", 1000), (17, "bytea", 1001), (18, "char", 1002), (19, "name", 1003),
   (20, "int8", 1016), (21, "int2", 1005), (22, "int2vector", 1006), (23, "int4", 1007),
   (24, "regproc", 1008), (25, "text", 1009), (26, "oid", 1028), (27, "tid", 1010),
   (28, "xid", 1011), (29, "cid", 1012), (30, "oidvector", 1013), (32, "pg_ddl_command", 0),
   (114, "json", 199), (142, "xml", 143), (194, "pg_node_tree", 0),
   (269, "table_am_handler", 0), (325, "index_am_handler", 0), (600, "point", 1017),
   (601, "lseg", 1018), (602, "path", 1019), (603, "box", 1020), (604, "polygon", 1027),
   (628, "line", 629), (650, "cidr", 651), (700, "float4", 1021), (701, "float8", 1022),
   (705, "unknown", 0), (718, "circle", 719), (774, "macaddr8", 775), (790, "money", 791),
   (829, "macaddr", 1040), (869, "inet", 1041), (1033, "aclitem", 1034), (1042, "bpchar", 1014),
   (1043, "varchar", 1015), (1082, "date", 1182), (1083, "time", 1183),
   (1114, "timestamp", 1115), (1184, "timestamptz", 1185), (1186, "interval", 1187),
   (1266, "timetz", 1270), (1560, "bit", 1561), (1562, "varbit", 1563), (1700, "numeric", 1231),
   (1790, "refcursor", 2201), (2202, "regprocedure", 2207), (2203, "regoper", 2208),
   (2204, "regoperator", 2209), (2205, "regclass", 2210), (2206, "regtype", 2211),
   (2249, "record", 2287), (2275, "cstring", 1263), (2276, "any", 0), (2277, "anyarray", 0),
   (2278, "void", 0), (2279, "trigger", 0), (2280, "language_handler", 0), (2281, "internal", 0),
   (2283, "anyelement", 0), (2776, "anynonarray", 0), (2950, "uuid", 2951),
   (2970, "txid_snapshot", 2949), (3115, "fdw_handler", 0), (3220, "pg_lsn", 3221),
   (3310, "tsm_handler", 0), (3361, "pg_ndistinct", 0), (3402, "pg_dependencies", 0),
   (3500, "anyenum", 0), (3614, "tsvector", 3643), (3615, "tsquery", 3645),
   (3642, "gtsvector", 3644), (3734, "regconfig", 3735), (3769, "regdictionary", 3770),
   (3802, "jsonb", 3807), (3831, "anyrange", 0), (3838, "event_trigger", 0),
   (3904, "int4range", 3905), (3906, "numrange", 3907), (3908, "tsrange", 3909),
   (3910, "tstzrange", 3911), (3912, "daterange", 3913), (3926, "int8range", 3927),
   (4072, "jsonpath", 4073), (4089, "regnamespace", 4090), (4096, "regrole", 4097),
   (4191, "regcollation", 4192), (4451, "int4multirange", 6150), (4532, "nummultirange", 6151),
   (4533, "tsmultirange", 6152), (4534, "tstzmultirange", 6153), (4535, "datemultirange", 6155),
   (4536, "int8multirange", 6157), (4537, "anymultirange", 0),
   (4538, "anycompatiblemultirange", 0), (4600, "pg_brin_bloom_summary", 0),
   (4601, "pg_brin_minmax_multi_summary", 0), (5017, "pg_mcv_list", 0),
   (5038, "pg_snapshot", 5039), (5069, "xid8", 271), (5077, "anycompatible", 0),
   (5078, "anycompatiblearray", 0), (5079, "anycompatiblenonarray", 0),
   (5080, "anycompatiblerange", 0)]

/-- The name of a type; one that the database does not define itself is called by its number. -/
def name (number : Nat) : String :=
  match valueTypes.find? fun t => t.1 == number || (t.2.2 == number && number != 0) with
  | some (own, name, _) => if own = number then name else "_" ++ name
  | none => toString number

end SemanticLayer.ColumnType
