import SemanticLayer.Catalog.Model

/-
# The built-in model: toll transactions
-/

namespace SemanticLayer

namespace TollModel

/-- A dimension of the exit station. -/
def station (name label : String) (synonyms values : List String) : Dimension where
  name := name
  label := label
  description := label ++ " of the exit station"
  sourceColumn := name
  join := some ⟨"main_dim.dim_toll_station", "station_id", "station_id"⟩
  synonyms := synonyms
  values := values

def revenue : Metric where
  name := "revenue"
  label := "日收费收入"
  unit := "元"
  description := "Actual toll amount collected per day"
  aggregation := .sum
  sourceColumn := "actual_amount"
  denominatorColumn := none
  allowedDimensions :=
    ["city", "station_name", "highway_code", "vehicle_type_name", "payment_method_name"]
  synonyms := ["日收入", "收入", "收费收入", "daily revenue", "daily_revenue"]

def transactions : Metric where
  name := "transactions"
  label := "日交易笔数"
  unit := "笔"
  description := "Number of toll transactions per day"
  aggregation := .count
  sourceColumn := "transaction_id"
  denominatorColumn := none
  allowedDimensions :=
    ["city", "station_name", "highway_code", "vehicle_type_name", "payment_method_name"]
  synonyms := ["交易笔数", "交易量", "daily_transactions", "transaction count"]

def averageAmount : Metric where
  name := "avg_transaction_amount"
  label := "平均交易金额"
  unit := "元"
  description := "Average actual amount per transaction"
  aggregation := .avg
  sourceColumn := "actual_amount"
  denominatorColumn := none
  allowedDimensions := ["city", "vehicle_type_name", "payment_method_name"]
  synonyms := ["平均金额", "客单价", "average transaction amount"]

def discountRate : Metric where
  name := "discount_rate"
  label := "优惠率"
  unit := "ratio"
  description := "Discount amount over gross toll amount"
  aggregation := .ratio
  sourceColumn := "discount_amount"
  denominatorColumn := some "toll_amount"
  allowedDimensions := ["city", "station_name", "payment_method_name"]
  synonyms := ["折扣率", "discount rate"]

def vehicleType : Dimension where
  name := "vehicle_type_name"
  label := "车型"
  description := "Vehicle toll class"
  sourceColumn := "vehicle_type_name"
  join := none
  synonyms := ["vehicle type", "vehicle"]
  values := []

def paymentMethod : Dimension where
  name := "payment_method_name"
  label := "支付方式"
  description := "How the toll was paid"
  sourceColumn := "payment_method_name"
  join := none
  synonyms := ["payment method", "payment"]
  values := ["ETC", "现金", "移动支付", "银行卡"]

def dimensions : List Dimension := [
  station "city" "城市" ["city"]
    ["北京", "天津", "济南", "南京", "上海", "廊坊", "沧州", "德州", "泰安", "苏州"],
  station "station_name" "收费站" ["station"] [],
  station "highway_code" "高速公路" ["highway"] [],
  vehicleType,
  paymentMethod]

end TollModel

/-- The model of a toll warehouse: transactions joined to the stations where vehicles leave. -/
def tollModel : Model where
  name := "toll_transactions"
  label := "收费交易"
  description := "Toll transactions joined to the station dimension"
  fact := ⟨"main_dwd.dwd_toll_transaction", "transaction_date"⟩
  metrics :=
    [TollModel.revenue, TollModel.transactions, TollModel.averageAmount, TollModel.discountRate]
  dimensions := TollModel.dimensions

end SemanticLayer
