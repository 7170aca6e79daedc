import StoreAdmin.Record.Shape

/-!
# Alert rules

Rules that watch a metric, and pages of them.
-/

namespace StoreAdmin

open Entry

/-- When a rule raises its alert. -/
structure AlertCondition where
  thresholdUnits : String := ""
  thresholdValue : String := ""
  severityType : String := ""
  deriving DecidableEq, Inhabited

instance : Model AlertCondition where
  heading := { name := "Condition" }
  fields := .of [
    text "thresholdUnits" "threshold_units", text "thresholdValue" "threshold_value",
    text "severityType" "severity_type"]
  toVal a := (a.thresholdUnits, a.thresholdValue, a.severityType, ())
  ofVal := fun (thresholdUnits, thresholdValue, severityType, _) =>
    { thresholdUnits, thresholdValue, severityType }
  ofVal_toVal _ := rfl

/-- A rule that raises an alert. All of its settings are texts. -/
structure AlertPolicy where
  policyName : String := ""
  metricType : String := ""
  metricName : String := ""
  createdBy : String := ""
  isEnabled : String := ""
  isPerInstanceMetric : String := ""
  period : String := ""
  periodUnits : String := ""
  datapointsToConsider : String := ""
  datapointsToAlert : String := ""
  statistic : String := ""
  operator : String := ""
  condition : AlertCondition := {}
  deriving DecidableEq, Inhabited

instance : Model AlertPolicy where
  heading := { name := "AlertPolicy", root := "alert_policy" }
  fields := .of [
    text "policyName" "policy_name", text "metricType" "metric_type",
    text "metricName" "metric_name", text "createdBy" "created_by", text "isEnabled" "is_enabled",
    text "isPerInstanceMetric" "is_per_instance_metric", text "period",
    text "periodUnits" "period_units", text "datapointsToConsider" "datapoints_to_consider",
    text "datapointsToAlert" "datapoints_to_alert", text "statistic", text "operator",
    one AlertCondition "condition"]
  toVal a := (a.policyName, a.metricType, a.metricName, a.createdBy, a.isEnabled,
    a.isPerInstanceMetric, a.period, a.periodUnits, a.datapointsToConsider, a.datapointsToAlert,
    a.statistic, a.operator, Model.toVal a.condition, ())
  ofVal := fun (policyName, metricType, metricName, createdBy, isEnabled, isPerInstanceMetric,
    period, periodUnits, datapointsToConsider, datapointsToAlert, statistic, operator, condition,
    _) =>
    { policyName, metricType, metricName, createdBy, isEnabled, isPerInstanceMetric, period,
      periodUnits, datapointsToConsider, datapointsToAlert, statistic, operator,
      condition := Model.ofVal condition }
  ofVal_toVal _ := by simp only [Model.ofVal_toVal]

/-- One page of alert rules. -/
structure AlertPolicyList where
  items : List AlertPolicy := []
  maxPolicies : Int64 := 0
  nextMarker : String := ""
  filter : String := ""
  nextPageLink : String := ""
  deriving DecidableEq, Inhabited

instance : Model AlertPolicyList where
  heading := { name := "AlertPolicies" }
  fields := .of [
    many AlertPolicy "alert_policies" "items", integer "MaxPolicies" "max_policies",
    (text "next_marker").unlessEmpty, (text "Filter" "filter").unlessEmpty,
    (text "next_page_link").unlessEmpty]
  toVal a := (Model.toVals a.items, a.maxPolicies, a.nextMarker, a.filter, a.nextPageLink, ())
  ofVal := fun (items, maxPolicies, nextMarker, filter, nextPageLink, _) =>
    { items := Model.ofVals items, maxPolicies, nextMarker, filter, nextPageLink }
  ofVal_toVal _ := by simp only [Model.ofVals_toVals]

end StoreAdmin
