/-!
# SQL statements

The statements that the account service sends, with their numbered placeholders. Times are
milliseconds since 1970 began.
-/

namespace UserAccounts.Statements

/-- Whether a username is taken. `$1` is the username. -/
def usernameExists : String :=
  "SELECT EXISTS (SELECT 1 FROM user_accounts WHERE username = $1)"

/-- Add a user. `$1` to `$4` are identifier, first name, last name and time of creation. -/
def insertUser : String :=
  "INSERT INTO users (user_id, first_name, last_name, created_at) VALUES ($1, $2, $3, $4)"

/-- Add an account. `$1` to `$4` are identifier, username, the user's identifier and time of
creation. -/
def insertAccount : String :=
  "INSERT INTO user_accounts (user_account_id, username, user_id, created_at) " ++
    "VALUES ($1, $2, $3, $4)"

/-- The number of accounts. -/
def countAccounts : String :=
  "SELECT COUNT(*) FROM user_accounts"

/-- Some accounts with their users, in order. `$1` is how many to skip, `$2` how many to give at
most. -/
def findAccounts : String :=
  "SELECT user_account_id, username, account_created_at, user_id, first_name, last_name, " ++
    "user_created_at FROM (SELECT ua.user_account_id, ua.username, " ++
    "ua.created_at AS account_created_at, u.user_id, u.first_name, u.last_name, " ++
    "u.created_at AS user_created_at, ROW_NUMBER() OVER (ORDER BY ua.row_id) AS row_num " ++
    "FROM user_accounts AS ua INNER JOIN users AS u ON u.user_id = ua.user_id) AS numbered " ++
    "WHERE row_num > $1 ORDER BY row_num LIMIT $2"

/-- Whether there are accounts beyond a position. `$1` is the position. -/
def hasAccountsAfter : String :=
  "SELECT EXISTS (SELECT 1 FROM (SELECT ROW_NUMBER() OVER (ORDER BY row_id) AS row_num " ++
    "FROM user_accounts) AS numbered WHERE row_num > $1)"

/-- One account with its user. `$1` is the account's identifier. -/
def findAccountById : String :=
  "SELECT ua.user_account_id, ua.username, ua.created_at, u.user_id, u.first_name, " ++
    "u.last_name, u.created_at FROM user_accounts AS ua " ++
    "INNER JOIN users AS u ON u.user_id = ua.user_id WHERE ua.user_account_id = $1"

/-- The statements with the names by which they are referred to. -/
def named : List (String × String) :=
  [("USERNAME_EXISTS", usernameExists), ("INSERT_USER", insertUser),
    ("INSERT_USER_ACCOUNT", insertAccount), ("COUNT_USER_ACCOUNTS", countAccounts),
    ("FIND_USER_ACCOUNTS", findAccounts), ("HAS_USER_ACCOUNTS_AFTER", hasAccountsAfter),
    ("FIND_USER_ACCOUNT_BY_ID", findAccountById)]

end UserAccounts.Statements
