import QueryTree.Text.Character
/-!
# Keywords — the words that shape a statement

A keyword is one word or several with blanks between them, in letters of
any case. What it does to the lines of a statement is its role. Where the
words of one keyword start those of another, the one that stands first in
its table is the one that is read.
-/

namespace QueryTree

open Text

/-- **What a keyword does to the lines of a statement.** -/
inductive KeywordRole where
  /-- It starts a clause: it has a line of its own, and the lines of the
  clause are indented under it. -/
  | clause
  /-- It starts a line inside a clause. -/
  | line
  /-- It divides statements: it has a line of its own. -/
  | divider
  /-- It stands in its line. -/
  | plain
deriving DecidableEq, Repr

namespace KeywordRole

/-- The keywords that start a clause. -/
def clauseKeywords : List String :=
  ["ADD", "AFTER", "ALTER COLUMN", "ALTER TABLE", "DELETE FROM", "EXCEPT", "FETCH FIRST", "FROM",
   "GROUP BY", "GO", "HAVING", "INSERT INTO", "INSERT", "LIMIT", "MODIFY", "ORDER BY", "RETURNING",
   "SELECT", "SET CURRENT SCHEMA", "SET SCHEMA", "SET", "UPDATE", "VALUES", "WHERE"]

/-- The keywords that start a line inside a clause. -/
def lineKeywords : List String :=
  ["AND", "CROSS APPLY", "CROSS JOIN", "ELSE", "INNER JOIN", "JOIN", "LEFT JOIN", "OR",
   "OUTER APPLY", "OUTER JOIN", "RIGHT JOIN", "WHEN", "XOR"]

/-- The keywords that divide statements. -/
def dividerKeywords : List String :=
  ["BEGIN", "DECLARE", "INTERSECT", "INTERSECT ALL", "MINUS", "UNION", "UNION ALL"]

/-- The keywords that stand in their line. -/
def plainKeywords : List String :=
  ["CHARACTER SET", "ON DELETE", "ON UPDATE", "ACCESSIBLE", "ACTION", "AGAINST", "AGGREGATE",
   "ALGORITHM", "ALL", "ALTER", "ANALYSE", "ANALYZE", "AS", "ASC", "AUTOCOMMIT", "AUTO_INCREMENT",
   "BACKUP", "BETWEEN", "BINLOG", "BOTH", "CASCADE", "CHANGE", "CHANGED", "CHARSET", "CHECK",
   "CHECKSUM", "COLLATE", "COLLATION", "COLUMN", "COLUMNS", "COMMENT", "COMMIT", "COMMITTED",
   "COMPRESSED", "CONCURRENT", "CONSTRAINT", "CONTAINS", "CONVERT", "CREATE", "CROSS",
   "CURRENT_TIMESTAMP", "DATABASE", "DATABASES", "DAY", "DAY_HOUR", "DAY_MINUTE", "DAY_SECOND",
   "DEFAULT", "DEFINER", "DELAYED", "DELETE", "DESC", "DESCRIBE", "DETERMINISTIC", "DISTINCT",
   "DISTINCTROW", "DIV", "DO", "DROP", "DUMPFILE", "DUPLICATE", "DYNAMIC", "ENCLOSED", "ENGINE",
   "ENGINES", "ENGINE_TYPE", "ESCAPE", "ESCAPED", "EVENTS", "EXEC", "EXECUTE", "EXISTS", "EXPLAIN",
   "EXTENDED", "FAST", "FETCH", "FIELDS", "FILE", "FIRST", "FIXED", "FLUSH", "FOR", "FORCE",
   "FOREIGN", "FULL", "FULLTEXT", "FUNCTION", "GLOBAL", "GRANT", "GRANTS", "GROUP_CONCAT", "HEAP",
   "HIGH_PRIORITY", "HOSTS", "HOUR", "HOUR_MINUTE", "HOUR_SECOND", "IDENTIFIED", "IF", "IFNULL",
   "IGNORE", "IN", "INDEX", "INDEXES", "INFILE", "INSERT_ID", "INSERT_METHOD", "INTERVAL", "INTO",
   "INVOKER", "IS", "ISOLATION", "KEY", "KEYS", "KILL", "LAST_INSERT_ID", "LEADING", "LEVEL",
   "LIKE", "LINEAR", "LINES", "LOAD", "LOCAL", "LOCK", "LOCKS", "LOGS", "LOW_PRIORITY", "MARIA",
   "MASTER", "MASTER_CONNECT_RETRY", "MASTER_HOST", "MASTER_LOG_FILE", "MATCH",
   "MAX_CONNECTIONS_PER_HOUR", "MAX_QUERIES_PER_HOUR", "MAX_ROWS", "MAX_UPDATES_PER_HOUR",
   "MAX_USER_CONNECTIONS", "MEDIUM", "MERGE", "MINUTE", "MINUTE_SECOND", "MIN_ROWS", "MODE",
   "MONTH", "MRG_MYISAM", "MYISAM", "NAMES", "NATURAL", "NOT", "NULL", "OFFSET", "ON", "ONLY",
   "OPEN", "OPTIMIZE", "OPTION", "OPTIONALLY", "OUTFILE", "PACK_KEYS", "PAGE", "PARTIAL",
   "PARTITION", "PARTITIONS", "PASSWORD", "PRIMARY", "PRIVILEGES", "PROCEDURE", "PROCESS",
   "PROCESSLIST", "PURGE", "QUICK", "RAID0", "RAID_CHUNKS", "RAID_CHUNKSIZE", "RAID_TYPE", "RANGE",
   "READ", "READ_ONLY", "READ_WRITE", "REFERENCES", "REGEXP", "RELOAD", "RENAME", "REPAIR",
   "REPEATABLE", "REPLACE", "REPLICATION", "RESET", "RESTORE", "RESTRICT", "RETURN", "RETURNS",
   "REVOKE", "RLIKE", "ROLLBACK", "ROW", "ROWS", "ROW_FORMAT", "SECOND", "SECURITY", "SEPARATOR",
   "SERIALIZABLE", "SESSION", "SHARE", "SHOW", "SHUTDOWN", "SLAVE", "SONAME", "SOUNDS", "SQL",
   "SQL_AUTO_IS_NULL", "SQL_BIG_RESULT", "SQL_BIG_SELECTS", "SQL_BIG_TABLES", "SQL_BUFFER_RESULT",
   "SQL_CACHE", "SQL_CALC_FOUND_ROWS", "SQL_LOG_BIN", "SQL_LOG_OFF", "SQL_LOG_UPDATE",
   "SQL_LOW_PRIORITY_UPDATES", "SQL_MAX_JOIN_SIZE", "SQL_NO_CACHE", "SQL_QUOTE_SHOW_CREATE",
   "SQL_SAFE_UPDATES", "SQL_SELECT_LIMIT", "SQL_SLAVE_SKIP_COUNTER", "SQL_SMALL_RESULT",
   "SQL_WARNINGS", "START", "STARTING", "STATUS", "STOP", "STORAGE", "STRAIGHT_JOIN", "STRING",
   "STRIPED", "SUPER", "TABLE", "TABLES", "TEMPORARY", "TERMINATED", "THEN", "TO", "TRAILING",
   "TRANSACTIONAL", "TRUE", "TRUNCATE", "TYPE", "TYPES", "UNCOMMITTED", "UNIQUE", "UNLOCK",
   "UNSIGNED", "USAGE", "USE", "USING", "VARIABLES", "VIEW", "WITH", "WORK", "WRITE", "YEAR_MONTH"]

/-- The keywords of a role. -/
def keywords : KeywordRole → List String
  | clause => clauseKeywords
  | line => lineKeywords
  | divider => dividerKeywords
  | plain => plainKeywords

end KeywordRole

/-- The words that a text starts with, `count` of them at most, in capital
letters: the first one, the first two with one blank between them, and so
on, each with the text after it. -/
def leadingWords : Nat → List Char → List (String × List Char)
  | 0, _ => []
  | count + 1, text =>
    match text.takeWhile isWordChar with
    | [] => []
    | letters =>
      let word := String.ofList (letters.map Char.toUpper)
      let rest := text.dropWhile isWordChar
      let longer :=
        if rest.head?.any isBlank then leadingWords count (rest.dropWhile isBlank) else []
      (word, rest) :: longer.map fun (words, rest) => (word ++ " " ++ words, rest)

/-- **The keyword that a text starts with:** its role, and the text after
it. -/
def keyword? (text : List Char) : Option (KeywordRole × List Char) :=
  let leading := leadingWords 3 text
  [KeywordRole.clause, .line, .divider, .plain].findSome? fun role =>
    (role.keywords.findSome? fun keyword => leading.lookup keyword).map fun rest => (role, rest)

end QueryTree
