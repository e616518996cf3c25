/-!
The files that come with the program: transactions to try it on, and an example of a rule file.
-/
namespace RecurringPayments.Sample

def ofLines (lines : List String) : String := "".intercalate (lines.map (· ++ "\n"))

def transactions : List String := [
  "id,date,amount,merchant,category,account,type,status,tags",
  "tx-1,2025-04-01,15.99,Netflix Inc.,Uncategorized,Chase Checking,debit,posted,",
  "tx-2,2025-05-01,15.99,Netflix Inc.,Uncategorized,Chase Checking,debit,posted,",
  "tx-3,2025-06-01,15.99,Netflix Inc.,Uncategorized,Chase Checking,debit,posted,",
  "tx-4,2025-07-01,15.99,NETFLIX INC,Uncategorized,Chase Checking,debit,posted,",
  "tx-5,2025-08-01,15.99,Netflix Inc.,Uncategorized,Chase Checking,debit,posted,",
  "tx-6,2025-09-01,15.99,Netflix Inc.,Uncategorized,Chase Checking,debit,cleared,",
  "tx-7,2025-06-25,10.99,Spotify,Entertainment,Amex Gold,debit,posted,",
  "tx-8,2025-07-25,10.99,Spotify,Entertainment,Amex Gold,debit,posted,",
  "tx-9,2025-08-25,10.99,Spotify,Entertainment,Amex Gold,debit,posted,",
  "tx-10,2025-09-25,10.99,Spotify,Entertainment,Amex Gold,debit,pending,",
  "tx-11,2025-05-03,75.00,Amazon Marketplace,Uncategorized,Amex Gold,debit,posted,",
  "tx-12,2025-06-19,20.00,Amazon Marketplace,Uncategorized,Amex Gold,debit,posted,",
  "tx-13,2025-08-02,132.45,Amazon Marketplace,Uncategorized,Amex Gold,debit,posted,",
  "tx-14,2025-09-05,8.20,Blue Bottle Coffee,Dining,Chase Checking,debit,posted,",
  "tx-15,2025-09-12,8.20,Blue Bottle Coffee,Dining,Chase Checking,debit,posted,",
  "tx-16,2025-09-19,8.95,Blue Bottle Coffee,Dining,Chase Checking,debit,posted,",
  "tx-17,2025-09-26,8.20,Blue Bottle Coffee,Dining,Chase Checking,debit,posted,",
  "tx-18,2025-01-15,139.00,Amazon Prime LLC,Shopping,Amex Gold,debit,posted,",
  "tx-19,2025-09-30,4200.00,Acme Corp,Income,Chase Checking,credit,cleared,"]

def rules : List String := [
  "# Example rule set. Rules run top to bottom; later rules see earlier changes.",
  "rules:",
  "  - id: rule-amazon-shopping",
  "    name: Large Amazon orders",
  "    description: Amazon purchases over $50 go to Shopping",
  "    enabled: true",
  "    logic: and",
  "    conditions:",
  "      - field: merchant",
  "        operator: contains",
  "        value: amazon",
  "      - field: amount",
  "        operator: greaterThan",
  "        value: 50",
  "    actions:",
  "      - type: setCategory",
  "        value: Shopping",
  "",
  "  - id: rule-streaming",
  "    name: Streaming services",
  "    enabled: true",
  "    logic: or",
  "    conditions:",
  "      - field: merchant",
  "        operator: contains",
  "        value: netflix",
  "      - field: merchant",
  "        operator: contains",
  "        value: spotify",
  "      - field: merchant",
  "        operator: contains",
  "        value: hulu",
  "    actions:",
  "      - type: setCategory",
  "        value: Entertainment",
  "      - type: addTag",
  "        value: subscription",
  "",
  "  - id: rule-review-large",
  "    name: Flag large debits for review",
  "    enabled: false",
  "    logic: and",
  "    conditions:",
  "      - field: type",
  "        operator: equals",
  "        value: debit",
  "      - field: amount",
  "        operator: greaterThan",
  "        value: 500",
  "    actions:",
  "      - type: setStatus",
  "        value: to_review"]

def transactionsName : String := "sample_transactions.csv"

def rulesName : String := "config/rules.yaml"

def file? (name : String) : Option String :=
  if name == transactionsName then some (ofLines transactions)
  else if name == rulesName then some (ofLines rules)
  else none

end RecurringPayments.Sample
